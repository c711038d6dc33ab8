import ApiContract.Proofs.Body.Validator
import ApiContract.Proofs.Operation.Built
import ApiContract.Proofs.Parameter.Validator

/-!
# The axes of a message

A request is checked axis by axis: path, query, header, cookie, body. A response is checked against
what its status selects: header, then body. The first axis that fails settles the result, and its
error comes from its own part of the message and its own question to the engine.
-/

namespace ApiContract.Operation

open Result (FailsFirst Reports)

/-! ## Requests -/

/-- The parts of a request that are checked one after the other. -/
inductive RequestAxis
  | path
  | query
  | header
  | cookie
  | body
  deriving DecidableEq

namespace RequestAxis

/-- The axes in the order in which they are checked. -/
def all : List RequestAxis := [path, query, header, cookie, body]

/-- The field of a request that holds the part. The body axis looks at the headers too, which are a
part before it. -/
def field : RequestAxis → String
  | path => "path"
  | query => "query"
  | header => "header"
  | cookie => "cookie"
  | body => "body"

/-- The error for what the engine rejects. -/
def rejection : RequestAxis → List Violation → ContractError
  | body => BodyValidator.rejection .request
  | axis => ParameterValidator.rejection .parameterValidation axis.field

/-- The part of a request. -/
def part (request : Fields) (axis : RequestAxis) : Value := fieldOf request axis.field

end RequestAxis

/-- What the validator of an axis says of its part of a request. -/
def requestAnswer (op : Operation) (request : Fields) : RequestAxis → Except Failure PUnit.{1}
  | .path => op.pathParameters.validate (fieldOf request "path")
  | .query => op.queryParameters.validate (fieldOf request "query")
  | .header => op.headerParameters.validate (fieldOf request "header")
  | .cookie => op.cookieParameters.validate (fieldOf request "cookie")
  | .body => op.validateRequestBody request

/-- What the validator of an axis asks about its part of a request. -/
def requestQuestion (op : Operation) (request : Fields) : RequestAxis → Question
  | .path => op.pathParameters.question (fieldOf request "path")
  | .query => op.queryParameters.question (fieldOf request "query")
  | .header => op.headerParameters.question (fieldOf request "header")
  | .cookie => op.cookieParameters.question (fieldOf request "cookie")
  | .body =>
    match op.requestBody with
    | none => .ok none
    | some body => body.question (fieldOf request "body") (fieldOf request "header")

/-! ## Responses -/

/-- The parts of a response that are checked one after the other. -/
inductive ResponseAxis
  | selection
  | header
  | body
  deriving DecidableEq

namespace ResponseAxis

/-- The axes in the order in which they are checked. -/
def all : List ResponseAxis := [selection, header, body]

/-- The error for what the engine rejects. Selection asks no engine. -/
def rejection : ResponseAxis → List Violation → ContractError
  | body => BodyValidator.rejection .response
  | _ => ParameterValidator.rejection .responseHeaderValidation "response-header"

/-- The part of a response, given with its status. -/
def part (status : Value) (response : Fields) : ResponseAxis → Value
  | selection => status
  | header => fieldOf response "header"
  | body => fieldOf response "body"

end ResponseAxis

/-- The response that a status selects, and the key under which it is declared. -/
def selected (op : Operation) (status : Value) : Except Failure (String × ResponseValidator) :=
  (op.selectResponse (Status.normalize status)).mapError .contract

/-- What the validator of an axis says of its part of a response. Without a selected response there
is nothing to be said of the others. -/
def responseAnswer (op : Operation) (status : Value) (response : Fields) :
    ResponseAxis → Except Failure PUnit.{1}
  | .selection => do let _ ← op.selected status
  | .header => do
    match op.selected status with
    | .ok (_, validator) => validator.header.validate (fieldOf response "header")
    | .error _ => return ⟨⟩
  | .body => do
    match op.selected status with
    | .ok (_, validator) =>
      validator.body.validate (fieldOf response "body")
        (← MediaType.ofHeaders (fieldOf response "header"))
    | .error _ => return ⟨⟩

/-- What the validator of an axis asks about its part of a response. -/
def responseQuestion (op : Operation) (status : Value) (response : Fields) :
    ResponseAxis → Question
  | .selection => do let _ ← op.selected status; return none
  | .header =>
    match op.selected status with
    | .ok (_, validator) => validator.header.question (fieldOf response "header")
    | .error _ => .ok none
  | .body =>
    match op.selected status with
    | .ok (_, validator) =>
      validator.body.question (fieldOf response "body") (fieldOf response "header")
    | .error _ => .ok none

variable {op : Operation} {requestEngine responseEngine : Engine (Except Failure)}

/-! ## Each axis in its turn -/

-- Checking a request runs through its axes.
theorem validateRequest_eq (op : Operation) (request : Fields) (lookedUp : Option String) :
    op.validateRequest request lookedUp =
      (RequestAxis.all.forM (op.requestAnswer request) >>= fun _ =>
        .ok (op.reportedId request lookedUp)) := by
  simp only [validateRequest, RequestAxis.all, Result.forM_cons, bind_assoc]
  rfl

-- Checking a response runs through its axes.
theorem validateResponse_eq (op : Operation) (status : Value) (response : Fields) :
    ∃ result, op.validateResponse status (.object response) =
      (ResponseAxis.all.forM (op.responseAnswer status response) >>= fun _ => .ok result) := by
  unfold validateResponse
  rw [show (op.selectResponse (Status.normalize status)).mapError Failure.contract =
    op.selected status from rfl]
  cases hselected : op.selected status with
  | error failure =>
    refine ⟨⟨none, ""⟩, ?_⟩
    simp only [ResponseAxis.all, Result.forM_cons, responseAnswer, hselected]
    rfl
  | ok selected =>
    rcases selected with ⟨key, validator⟩
    refine ⟨⟨op.id, key⟩, ?_⟩
    simp only [ResponseAxis.all, Result.forM_cons, responseAnswer, hselected, bind_assoc]
    rfl

-- Two requests whose parts agree up to an axis get the same answers up to there.
theorem requestAnswer_congr {request other : Fields} {axis : RequestAxis}
    (h : ∀ a ∈ RequestAxis.all.takeWhile (· ≠ axis) ++ [axis], a.part request = a.part other) :
    ∀ a ∈ RequestAxis.all.takeWhile (· ≠ axis) ++ [axis],
      op.requestAnswer request a = op.requestAnswer other a := by
  intro a ha
  have hpart := h a ha
  cases a with
  | path => exact congrArg op.pathParameters.validate hpart
  | query => exact congrArg op.queryParameters.validate hpart
  | header => exact congrArg op.headerParameters.validate hpart
  | cookie => exact congrArg op.cookieParameters.validate hpart
  | body =>
    -- Every axis stands before the body, the headers among them.
    have hheader : RequestAxis.header.part request = RequestAxis.header.part other := by
      refine h .header ?_
      cases axis <;> first | exact absurd ha (by decide) | decide
    simp only [requestAnswer, validateRequestBody]
    cases op.requestBody with
    | none => rfl
    | some body =>
      rw [show fieldOf request "header" = fieldOf other "header" from hheader]
      rw [show fieldOf request "body" = fieldOf other "body" from hpart]

-- Two responses whose statuses and parts agree up to an axis get the same answers up to there.
theorem responseAnswer_congr {status status' : Value} {response other : Fields}
    {axis : ResponseAxis}
    (h : ∀ a ∈ ResponseAxis.all.takeWhile (· ≠ axis) ++ [axis],
      a.part status response = a.part status' other) :
    ∀ a ∈ ResponseAxis.all.takeWhile (· ≠ axis) ++ [axis],
      op.responseAnswer status response a = op.responseAnswer status' other a := by
  intro a ha
  have hstatus : status = status' := by
    refine h .selection ?_
    cases axis <;> decide
  have hpart := h a ha
  subst hstatus
  cases a with
  | selection => rfl
  | header =>
    simp only [responseAnswer]
    rw [show fieldOf response "header" = fieldOf other "header" from hpart]
  | body =>
    have hheader : ResponseAxis.header.part status response =
        ResponseAxis.header.part status other := by
      refine h .header ?_
      cases axis <;> first | exact absurd ha (by decide) | decide
    simp only [responseAnswer]
    rw [show fieldOf response "header" = fieldOf other "header" from hheader]
    rw [show fieldOf response "body" = fieldOf other "body" from hpart]

/-! ## The question of each axis -/

-- The body of a request is checked with what is built from the engine for requests.
theorem builtFor_of_buildRequestBody {declared : Option Value} {body : BodyValidator}
    (h : buildRequestBody requestEngine declared = .ok (some body)) :
    BodyValidator.BuiltFor requestEngine .request body := by
  unfold buildRequestBody at h
  split at h
  · rcases Result.bind_eq_ok_iff.1 h with ⟨b, hb, heq⟩
    obtain rfl : b = body := Option.some.inj (Except.ok.inj heq)
    exact BodyValidator.builtFor_of_build hb
  · cases h

-- Each axis of a request answers its question, put to the engine for requests.
theorem Built.answers_request {path method : String} {fields : Fields} {ofPath : Value}
    (h : Built path method fields requestEngine responseEngine ofPath op) (request : Fields)
    (axis : RequestAxis) :
    Answers requestEngine .request axis.rejection (op.requestQuestion request axis)
      (op.requestAnswer request axis) := by
  cases axis with
  | path => exact (ParameterValidator.builtFor_of_ofLocation h.pathParameters).answers _
  | query => exact (ParameterValidator.builtFor_of_ofLocation h.queryParameters).answers _
  | header => exact (ParameterValidator.builtFor_of_build h.headerParameters).answers _
  | cookie => exact (ParameterValidator.builtFor_of_ofLocation h.cookieParameters).answers _
  | body =>
    simp only [requestQuestion, requestAnswer, validateRequestBody]
    cases hbody : op.requestBody with
    | none => exact .nothing
    | some body =>
      have hbuild := h.requestBody
      rw [hbody] at hbuild
      exact (builtFor_of_buildRequestBody hbuild).answers _ _

-- What the responses of an operation are checked with is built from the engine for responses.
theorem builtFor_of_buildResponses {declared : Fields}
    {responses : List (String × ResponseValidator)}
    (h : buildResponses responseEngine declared = .ok responses) :
    ∀ p ∈ responses,
      ParameterValidator.BuiltFor responseEngine .response .responseHeaderValidation
        "response-header" p.2.header ∧
      BodyValidator.BuiltFor responseEngine .response p.2.body := by
  intro p hp
  obtain ⟨fields, hheader, hbody⟩ := exists_of_buildResponses h p hp
  exact ⟨ParameterValidator.builtFor_of_ofHeaders hheader, BodyValidator.builtFor_of_build hbody⟩

-- The selected response is one of those that were built.
theorem mem_of_selected {status : Value} {key : String} {validator : ResponseValidator}
    (h : op.selected status = .ok (key, validator)) : (key, validator) ∈ op.responses := by
  have hselect := Result.mapError_eq_ok_iff.1 h
  unfold selectResponse at hselect
  split at hselect
  · rename_i selected hfound
    rcases Except.ok.inj hselect with rfl
    rcases List.exists_of_findSome?_eq_some hfound with ⟨candidate, -, hcandidate⟩
    rcases Option.map_eq_some_iff.1 hcandidate with ⟨response, hresponse, heq⟩
    obtain ⟨rfl, rfl⟩ : candidate = key ∧ response = validator := by simpa using heq
    rcases List.lookup_eq_some_iff.1 hresponse with ⟨before, after, hsplit, -⟩
    have hmem : (candidate, response) ∈ op.responses.reverse := by
      rw [hsplit]
      simp
    exact List.mem_reverse.1 hmem
  · cases hselect

-- Each axis of a response answers its question, put to the engine for responses.
theorem Built.answers_response {path method : String} {fields : Fields} {ofPath : Value}
    (h : Built path method fields requestEngine responseEngine ofPath op) (status : Value)
    (response : Fields) (axis : ResponseAxis) :
    Answers responseEngine .response axis.rejection (op.responseQuestion status response axis)
      (op.responseAnswer status response axis) := by
  cases hselected : op.selected status with
  | error failure =>
    cases axis with
    | selection =>
      simp only [responseQuestion, responseAnswer, hselected]
      exact .error failure
    | header =>
      simp only [responseQuestion, responseAnswer, hselected]
      exact .nothing
    | body =>
      simp only [responseQuestion, responseAnswer, hselected]
      exact .nothing
  | ok selected =>
    rcases selected with ⟨key, validator⟩
    have hbuilt := builtFor_of_buildResponses h.responses _ (mem_of_selected hselected)
    cases axis with
    | selection =>
      simp only [responseQuestion, responseAnswer, hselected]
      exact .nothing
    | header =>
      simp only [responseQuestion, responseAnswer, hselected]
      exact hbuilt.1.answers _
    | body =>
      simp only [responseQuestion, responseAnswer, hselected]
      exact hbuilt.2.answers _ _

/-! ## The first failing axis -/

/-- Whatever an operation is built from and whatever its engines answer, a request is accepted
exactly when each axis accepts its part, and otherwise fails with the error of the axis that fails
first. On its part of the request an axis asks the engine for requests at most one question; an
unfavourable answer becomes an error at the axis with just the violations of the answer, and any
other failure is passed on. What the axes behind the first failing one hold makes no difference. The
same goes for responses, whose axes are the selection by status, the header and the body. -/
theorem validation_reports_first_failure {path method : String} {fields : Fields} {ofPath : Value}
    (hbuild : build path method fields requestEngine responseEngine ofPath = .ok op) :
    ((∀ request lookedUp,
        Reports RequestAxis.all (op.requestAnswer request) (op.validateRequest request lookedUp)) ∧
      (∀ request axis,
        Answers requestEngine .request axis.rejection (op.requestQuestion request axis)
          (op.requestAnswer request axis)) ∧
      ∀ request other lookedUp lookedUp' axis e,
        FailsFirst (op.requestAnswer request) RequestAxis.all axis e →
        (∀ a ∈ RequestAxis.all.takeWhile (· ≠ axis) ++ [axis], a.part request = a.part other) →
        op.validateRequest request lookedUp = .error e ∧
          op.validateRequest other lookedUp' = .error e) ∧
    ((∀ status response,
        Reports ResponseAxis.all (op.responseAnswer status response)
          (op.validateResponse status (.object response))) ∧
      (∀ status response axis,
        Answers responseEngine .response axis.rejection (op.responseQuestion status response axis)
          (op.responseAnswer status response axis)) ∧
      ∀ status status' response other axis e,
        FailsFirst (op.responseAnswer status response) ResponseAxis.all axis e →
        (∀ a ∈ ResponseAxis.all.takeWhile (· ≠ axis) ++ [axis],
          a.part status response = a.part status' other) →
        op.validateResponse status (.object response) = .error e ∧
          op.validateResponse status' (.object other) = .error e) := by
  have hbuilt := built_of_build hbuild
  have hrequest : ∀ request lookedUp, Reports RequestAxis.all (op.requestAnswer request)
      (op.validateRequest request lookedUp) := by
    intro request lookedUp
    rw [validateRequest_eq]
    exact Result.reports_forM _
  have hresponse : ∀ status response, Reports ResponseAxis.all (op.responseAnswer status response)
      (op.validateResponse status (.object response)) := by
    intro status response
    rcases validateResponse_eq op status response with ⟨result, h⟩
    rw [h]
    exact Result.reports_forM result
  refine ⟨⟨hrequest, hbuilt.answers_request, ?_⟩, hresponse, hbuilt.answers_response, ?_⟩
  · intro request other lookedUp lookedUp' axis e hfirst hagree
    have hother := hfirst.congr (requestAnswer_congr hagree)
    exact ⟨((hrequest request lookedUp).error_iff e).2 ⟨axis, hfirst⟩,
      ((hrequest other lookedUp').error_iff e).2 ⟨axis, hother⟩⟩
  · intro status status' response other axis e hfirst hagree
    have hother := hfirst.congr (responseAnswer_congr hagree)
    exact ⟨((hresponse status response).error_iff e).2 ⟨axis, hfirst⟩,
      ((hresponse status' other).error_iff e).2 ⟨axis, hother⟩⟩

/-- An engine that refuses everything and gives no reasons makes the path fail first, with an error
that names no violations. -/
theorem silent_engine_fails_at_path : ∃ op : Operation,
    build "/pets" "get" [] (Engine.silent (m := Except Failure))
      (Engine.silent (m := Except Failure)) .null = .ok op ∧
    ∀ request lookedUp, fieldOf request "path" = .null →
      op.validateRequest request lookedUp =
        .error (.contract (RequestAxis.path.rejection [])) := by
  cases hbuild : build "/pets" "get" [] (Engine.silent (m := Except Failure))
      (Engine.silent (m := Except Failure)) .null with
  | error f =>
    have hok : (build "/pets" "get" [] (Engine.silent (m := Except Failure))
      (Engine.silent (m := Except Failure)) .null).isOk = true := by decide +kernel
    rw [hbuild] at hok
    cases hok
  | ok op =>
    refine ⟨op, rfl, fun request lookedUp hpath => ?_⟩
    have h := (validation_reports_first_failure hbuild).1
    have hquestion : op.requestQuestion request .path = .ok (some (op.pathParameters.unit,
        .object (if op.pathParameters.caseInsensitive then ParameterValidator.lowerKeys [] else
          []))) := by
      rw [requestQuestion, hpath]
      rfl
    rcases (h.2.1 request .path).of_some _ _ hquestion with ⟨hcompiled, hanswer⟩
    have hsilent : (fun _ => .ok ⟨false, []⟩) = op.pathParameters.unit.check :=
      Except.ok.inj hcompiled
    rw [← hsilent] at hanswer
    exact ((h.1 request lookedUp).error_iff _).2 ⟨.path, .head hanswer⟩

end ApiContract.Operation
