import ApiContract.Proofs.Contract.Found
import ApiContract.Proofs.Operation.Axis
import ApiContract.Proofs.Schema.Outcome

/-!
# The errors of calls

Once a contract is built, a call ends with a result, with a fault, or with a contract error of its own
kind. A lookup fails with an error of lookups; a request is refused at one of its parameter locations or
at its body, a response for its status, its headers or its body. Kind, status code and location go
together, and an error about parameters or headers carries the violations that the check reports.
-/

namespace ApiContract

open Result (FailsOnly)

/-! ## Checks and their answers -/

/-- Is the failure a contract error? -/
def Failure.isContractError : Failure → Bool
  | .contract _ | .invalidDocument => true
  | .rejected _ | .fault _ => false

/-- No check that the engine compiles ends with a contract error. -/
def Engine.RaisesNoContractError (engine : Engine (Except Failure)) : Prop :=
  ∀ direction schema check, engine.compile direction schema = .ok check →
    ∀ v, FailsOnly (fun failure => failure.isContractError = false) (check v)

/-- The failure is a fault, or a contract error that satisfies the condition. -/
inductive Failure.Within (P : ContractError → Prop) : Failure → Prop
  | fault (fault : Fault) : Within P (.fault fault)
  | contract {e : ContractError} (h : P e) : Within P (.contract e)

/-- The check of a schema speaks against the value with just these violations. -/
def SchemaUnit.Refuses (unit : SchemaUnit) (v : Value) (violations : List Violation) : Prop :=
  unit.check v = .ok ⟨false, violations⟩ ∨ unit.check v = .error (.rejected violations)

/-- A question is put to a check, which speaks against the value with just these violations. -/
def Refused (question : Question) (violations : List Violation) : Prop :=
  ∃ unit v, question = .ok (some (unit, v)) ∧ unit.Refuses v violations

theorem Failure.Within.imp {P Q : ContractError → Prop} {failure : Failure}
    (h : failure.Within P) (hPQ : ∀ e, P e → Q e) : failure.Within Q := by
  cases h with
  | fault fault => exact .fault fault
  | contract he => exact .contract (hPQ _ he)

theorem Failure.Within.of_untyped {α : Type} {P : ContractError → Prop} {x : Except Failure α}
    {failure : Failure} (h : Untyped x) (hfails : x = .error failure) : failure.Within P := by
  obtain ⟨fault, rfl⟩ := h failure hfails
  exact .fault fault

-- A validator fails as its question does, or else as its check makes it fail.
theorem Answers.error_cases {engine : Engine (Except Failure)} {direction : Direction}
    {rejection : List Violation → ContractError} {question : Question}
    {result : Except Failure PUnit.{1}} {failure : Failure}
    (h : Answers engine direction rejection question result)
    (hengine : engine.RaisesNoContractError) (hfails : result = .error failure) :
    question = .error failure ∨ (∃ fault, failure = .fault fault) ∨
      ∃ violations, Refused question violations ∧ failure = .contract (rejection violations) := by
  cases hquestion : question with
  | error other =>
    rw [h.of_error other hquestion] at hfails
    exact .inl (congrArg Except.error (Except.error.inj hfails))
  | ok asked =>
    cases asked with
    | none =>
      rw [h.of_none hquestion] at hfails
      cases hfails
    | some p =>
      obtain ⟨unit, v⟩ := p
      obtain ⟨hcompiled, hanswer⟩ := h.of_some unit v hquestion
      have hplain := hengine direction unit.schema unit.check hcompiled v
      rw [hanswer] at hfails
      refine .inr ?_
      cases hcheck : unit.check v with
      | ok verdict =>
        obtain ⟨valid, violations⟩ := verdict
        rw [hcheck] at hfails
        cases valid with
        | true => cases hfails
        | false =>
          refine .inr ⟨violations, ⟨unit, v, rfl, .inl hcheck⟩, ?_⟩
          exact (Except.error.inj hfails).symm
      | error other =>
        rw [hcheck] at hfails
        cases other with
        | rejected violations =>
          refine .inr ⟨violations, ⟨unit, v, rfl, .inr hcheck⟩, ?_⟩
          exact (Except.error.inj hfails).symm
        | fault fault => exact .inl ⟨fault, (Except.error.inj hfails).symm⟩
        | contract e => exact absurd (hplain _ hcheck) (by simp [Failure.isContractError])
        | invalidDocument => exact absurd (hplain _ hcheck) (by simp [Failure.isContractError])

/-! ## Parameters and headers -/

namespace ParameterValidator

-- Nothing but the shape of the values keeps a validator from asking.
theorem untyped_question (validator : ParameterValidator) (values : Value) :
    Untyped (validator.question values) :=
  (untyped_candidate values).bind fun _ _ => .ok _

end ParameterValidator

/-! ## Bodies -/

namespace BodyValidator

/-- There is a body, and no declared media type serves its content type. -/
def Unserved (b : BodyValidator) (body headers : Value) : Prop :=
  body.isNull = false ∧
    ∃ contentType, MediaType.ofHeaders headers = .ok contentType ∧ b.resolve contentType = none

/-- The error belongs to the bodies of a direction. In a request it has a status code of its own when
the content type is not served. -/
structure ErrorAt (direction : Direction) (unserved : Prop) (e : ContractError) : Prop where
  kind_eq : e.kind = kindOf direction
  location_eq : e.location = direction.name ++ "-body"
  code : (unserved ∧ e.code = if direction = .request then 415 else 500) ∨
    (¬ unserved ∧ e.code = (kindOf direction).defaultCode)

variable {engine : Engine (Except Failure)} {direction : Direction} {b : BodyValidator}
  {body headers : Value} {failure : Failure}

-- What is asked about has a schema to be asked.
theorem not_unserved_of_question {unit : SchemaUnit} {v : Value}
    (h : b.question body headers = .ok (some (unit, v))) : ¬ b.Unserved body headers := by
  rintro ⟨hnull, contentType, hheaders, hresolve⟩
  rw [question, hheaders] at h
  simp only [bind, Except.bind, hnull, hresolve] at h
  cases h

-- A body that is asked nothing about is missing or unserved.
theorem within_of_question_error (hb : b.BuiltFor engine direction)
    (h : b.question body headers = .error failure) :
    failure.Within (ErrorAt direction (b.Unserved body headers)) := by
  have hkind : b.errorKind = kindOf direction := by
    rw [errorKind, hb.direction_eq]
    cases direction <;> rfl
  have hlocation : b.location = direction.name ++ "-body" := by rw [location, hb.direction_eq]
  obtain hheaders | ⟨contentType, hheaders, h⟩ := Result.bind_eq_error_iff.1 h
  · exact .of_untyped (MediaType.untyped_ofHeaders headers) hheaders
  · split at h
    · rename_i hnull
      split at h
      · cases h
        refine .contract ⟨hkind, hlocation, .inr ⟨fun hunserved => ?_, by rw [← hkind]⟩⟩
        rw [hunserved.1] at hnull
        cases hnull
      · cases h
    · rename_i hnull
      split at h
      · rename_i hresolve
        cases h
        have hunserved : b.Unserved body headers :=
          ⟨by simpa using hnull, contentType, hheaders, hresolve⟩
        refine .contract ⟨hkind, hlocation, .inl ⟨hunserved, ?_⟩⟩
        dsimp only [unsupported]
        rw [hkind, hb.direction_eq]
        cases direction <;> rfl
      · cases h

-- A body fails with an error of its own.
theorem within_of_validate (hb : b.BuiltFor engine direction)
    (hengine : engine.RaisesNoContractError)
    (hfails : (do b.validate body (← MediaType.ofHeaders headers)) = .error failure) :
    failure.Within (ErrorAt direction (b.Unserved body headers)) := by
  obtain h | ⟨fault, rfl⟩ | ⟨violations, ⟨unit, v, hquestion, -⟩, rfl⟩ :=
    (hb.answers body headers).error_cases hengine hfails
  · exact within_of_question_error hb h
  · exact .fault fault
  · exact .contract ⟨rfl, rfl, .inr ⟨not_unserved_of_question hquestion, rfl⟩⟩

end BodyValidator

/-! ## Operations -/

namespace Operation

/-- The contract errors of a request to an operation: at a location of parameters, with the violations
that the check of the location reports, or at the body. -/
inductive RequestError (op : Operation) (request : Fields) (e : ContractError) : Prop
  | parameters (axis : RequestAxis) (ne_body : axis ≠ .body)
      (kind_eq : e.kind = .parameterValidation) (code_eq : e.code = 400)
      (location_eq : e.location = axis.field)
      (refused : Refused (op.requestQuestion request axis) e.violations)
  | body (b : BodyValidator) (declared : op.requestBody = some b)
      (kind_eq : e.kind = .requestBodyValidation) (location_eq : e.location = "request-body")
      (code : (b.Unserved (fieldOf request "body") (fieldOf request "header") ∧ e.code = 415) ∨
        (¬ b.Unserved (fieldOf request "body") (fieldOf request "header") ∧ e.code = 400))

/-- The contract errors of a response to an operation: for its status, at the headers, with the
violations that their check reports, or at the body. -/
inductive ResponseError (op : Operation) (status response : Value) (e : ContractError) : Prop
  | selection (kind_eq : e.kind = .responseDefinitionMissing) (code_eq : e.code = 500)
      (location_eq : e.location = "response")
  | header {fields : Fields} (object : response = .object fields)
      (kind_eq : e.kind = .responseHeaderValidation) (code_eq : e.code = 500)
      (location_eq : e.location = "response-header")
      (refused : Refused (op.responseQuestion status fields .header) e.violations)
  | body (kind_eq : e.kind = .responseBodyValidation) (code_eq : e.code = 500)
      (location_eq : e.location = "response-body")

variable {op : Operation} {path method : String} {fields : Fields} {ofPath : Value}
  {requestEngine responseEngine : Engine (Except Failure)} {failure : Failure}

-- Each axis of a request fails with an error of its own.
theorem Built.within_of_requestAnswer
    (h : Built path method fields requestEngine responseEngine ofPath op)
    (hengine : requestEngine.RaisesNoContractError) {request : Fields} {axis : RequestAxis}
    (hfails : op.requestAnswer request axis = .error failure) :
    failure.Within (op.RequestError request) := by
  have hparameters : axis ≠ .body → (∀ violations, axis.rejection violations =
        ParameterValidator.rejection .parameterValidation axis.field violations) →
      Untyped (op.requestQuestion request axis) → failure.Within (op.RequestError request) := by
    intro hne hrejection huntyped
    obtain herror | ⟨fault, rfl⟩ | ⟨violations, hrefused, rfl⟩ :=
      (h.answers_request request axis).error_cases hengine hfails
    · exact .of_untyped huntyped herror
    · exact .fault fault
    · rw [hrejection]
      exact .contract (.parameters axis hne rfl rfl rfl hrefused)
  cases axis with
  | path => exact hparameters nofun (fun _ => rfl) (op.pathParameters.untyped_question _)
  | query => exact hparameters nofun (fun _ => rfl) (op.queryParameters.untyped_question _)
  | header => exact hparameters nofun (fun _ => rfl) (op.headerParameters.untyped_question _)
  | cookie => exact hparameters nofun (fun _ => rfl) (op.cookieParameters.untyped_question _)
  | body =>
    rw [requestAnswer, validateRequestBody] at hfails
    cases hbody : op.requestBody with
    | none =>
      rw [hbody] at hfails
      cases hfails
    | some b =>
      have hbuild := h.requestBody
      rw [hbody] at hfails hbuild
      have hwithin := BodyValidator.within_of_validate (builtFor_of_buildRequestBody hbuild)
        hengine hfails
      exact hwithin.imp fun e he => .body b hbody he.kind_eq he.location_eq he.code

theorem Built.within_of_validateRequest
    (h : Built path method fields requestEngine responseEngine ofPath op)
    (hengine : requestEngine.RaisesNoContractError) {request : Fields} {lookedUp : Option String}
    (hfails : op.validateRequest request lookedUp = .error failure) :
    failure.Within (op.RequestError request) := by
  rw [validateRequest_eq] at hfails
  obtain hfails | ⟨_, -, hok⟩ := Result.bind_eq_error_iff.1 hfails
  · obtain ⟨axis, hfirst⟩ := Result.forM_eq_error_iff.1 hfails
    exact h.within_of_requestAnswer hengine hfirst.fails
  · cases hok

-- A status without a response is all that keeps a response from being selected.
theorem within_of_selected {status response : Value} (hfails : op.selected status = .error failure) :
    failure.Within (op.ResponseError status response) := by
  unfold selected selectResponse at hfails
  split at hfails
  · cases hfails
  · cases hfails
    exact .contract (.selection rfl rfl rfl)

-- Each axis of a response fails with an error of its own.
theorem Built.within_of_responseAnswer
    (h : Built path method fields requestEngine responseEngine ofPath op)
    (hengine : responseEngine.RaisesNoContractError) {status : Value} {response : Fields}
    {axis : ResponseAxis} (hfails : op.responseAnswer status response axis = .error failure) :
    failure.Within (op.ResponseError status (.object response)) := by
  cases axis with
  | selection =>
    obtain hselected | ⟨_, -, hok⟩ := Result.bind_eq_error_iff.1 hfails
    · exact within_of_selected hselected
    · cases hok
  | header =>
    obtain hquestion | ⟨fault, rfl⟩ | ⟨violations, hrefused, rfl⟩ :=
      (h.answers_response status response .header).error_cases hengine hfails
    · rw [responseQuestion] at hquestion
      split at hquestion
      · exact .of_untyped (ParameterValidator.untyped_question _ _) hquestion
      · cases hquestion
    · exact .fault fault
    · exact .contract (.header rfl rfl rfl rfl hrefused)
  | body =>
    cases hselected : op.selected status with
    | error other =>
      rw [responseAnswer, hselected] at hfails
      cases hfails
    | ok selected =>
      have hbuilt := (builtFor_of_buildResponses h.responses _ (mem_of_selected hselected)).2
      rw [responseAnswer, hselected] at hfails
      refine (BodyValidator.within_of_validate hbuilt hengine hfails).imp fun e he => ?_
      -- Whether or not the content type is served, the status code is the same.
      exact .body he.kind_eq (he.code.elim (·.2) (·.2)) he.location_eq

theorem Built.within_of_validateResponse
    (h : Built path method fields requestEngine responseEngine ofPath op)
    (hengine : responseEngine.RaisesNoContractError) {status response : Value}
    (hfails : op.validateResponse status response = .error failure) :
    failure.Within (op.ResponseError status response) := by
  cases response with
  | object response =>
    obtain ⟨result, heq⟩ := validateResponse_eq op status response
    rw [heq] at hfails
    obtain hfails | ⟨_, -, hok⟩ := Result.bind_eq_error_iff.1 hfails
    · obtain ⟨axis, hfirst⟩ := Result.forM_eq_error_iff.1 hfails
      exact h.within_of_responseAnswer hengine hfirst.fails
    · cases hok
  | scalar s =>
    obtain hselected | ⟨_, -, hstop⟩ := Result.bind_eq_error_iff.1 hfails
    · exact within_of_selected hselected
    · cases hstop
      exact .fault _
  | list items =>
    obtain hselected | ⟨_, -, hstop⟩ := Result.bind_eq_error_iff.1 hfails
    · exact within_of_selected hselected
    · cases hstop
      exact .fault _

-- Errors of requests are errors of one of the two kinds for requests.
theorem RequestError.kind {request : Fields} {e : ContractError} (h : op.RequestError request e) :
    e.kind.isA .responseValidation = false ∧ e.kind.isA .document = false := by
  cases h with
  | parameters _ _ kind_eq => rw [kind_eq]; decide
  | body _ _ kind_eq => rw [kind_eq]; decide

theorem ResponseError.kind {status response : Value} {e : ContractError}
    (h : op.ResponseError status response e) :
    e.kind.isA .requestValidation = false ∧ e.kind.isA .document = false := by
  cases h with
  | selection kind_eq => rw [kind_eq]; decide
  | header _ kind_eq => rw [kind_eq]; decide
  | body kind_eq => rw [kind_eq]; decide

end Operation

/-! ## Calls -/

theorem ContractError.OfLookup.kind {e : ContractError} (h : e.OfLookup) :
    e.kind.isA .structuralLookup = true ∧ e.kind.isA .requestValidation = false ∧
      e.kind.isA .responseValidation = false ∧ e.kind.isA .document = false := by
  cases h with
  | unknown kind_eq => rw [kind_eq]; decide
  | undeclared kind_eq => rw [kind_eq]; decide
  | ambiguous kind_eq => rw [kind_eq]; decide

theorem LookupAnswer.within {α : Type} {known : List α} {x : Except Failure α} {failure : Failure}
    (h : LookupAnswer known x) (hfails : x = .error failure) :
    failure.Within ContractError.OfLookup := by
  cases h with
  | found => cases hfails
  | refused he =>
    cases hfails
    exact .contract he
  | stopped fault =>
    cases hfails
    exact .fault fault

namespace Contract

-- A path without an operation has no media types.
theorem untyped_requestContentTypes (c : Contract) (path method : Value) :
    Untyped (c.requestContentTypes path method) := by
  have hanswer := c.index.answer_lookupValues path method
  unfold requestContentTypes
  cases hlookup : c.index.lookupValues path method with
  | ok op => exact .ok _
  | error failure =>
    cases hanswer.within hlookup with
    | fault fault => exact Untyped.stop fault
    | contract he =>
      dsimp only
      rw [if_pos he.kind.1]
      exact .ok _

variable {engine : EngineOptions → Option String → Engine (Except Failure)}
  {options : ContractOptions} {document : Value} {c : Contract}

/-- The errors of calls, for any engine whose checks do not end with contract errors themselves. A
contract error of a request call is an error of lookups, or it belongs to the operation that the call
is about: to one of the four parameter locations, with 400 and with all violations that the check of
the location reports, or to the body, with 415 exactly when there is a body whose content type is not
served, and with 400 otherwise. A contract error of a response call is an error of lookups, or it says,
with 500, that no response is declared for the status, or belongs to the headers, with all violations,
or to the body. No request call ends with an error about responses, nor the other way round, and none
with an error about the document. Lookups fail with errors of lookups only, and asking for the media
types of a body fails with none. -/
theorem calls_fail_with_their_own_errors
    (hrequest : (engine options.request (statedVersion document)).RaisesNoContractError)
    (hresponse : (engine options.response (statedVersion document)).RaisesNoContractError)
    (hc : build engine options document = .ok c) :
    (∀ call failure, c.answerRequest call = .error failure → failure.Within fun e =>
      (e.OfLookup ∨ ∃ op request, c.requested call = .ok op ∧ call.request = .object request ∧
        op.RequestError request e) ∧
      e.kind.isA .responseValidation = false ∧ e.kind.isA .document = false) ∧
    (∀ call failure, c.answerResponse call = .error failure → failure.Within fun e =>
      (e.OfLookup ∨ ∃ op, c.responded call = .ok op ∧
        op.ResponseError call.status call.response e) ∧
      e.kind.isA .requestValidation = false ∧ e.kind.isA .document = false) ∧
    (∀ path method,
      FailsOnly (Failure.Within ContractError.OfLookup) (c.index.lookupValues path method) ∧
      FailsOnly (Failure.Within ContractError.OfLookup) (c.index.serveValues path method) ∧
      Untyped (c.requestContentTypes path method)) ∧
    ∀ id, FailsOnly (Failure.Within ContractError.OfLookup) (c.index.lookupIdValue id) := by
  refine ⟨fun call failure hfails => ?_, fun call failure hfails => ?_, fun path method => ?_,
    fun id _ => (c.index.answer_lookupIdValue id).within⟩
  · rw [answerRequest_eq] at hfails
    obtain hlookup | ⟨op, hop, hfails⟩ := Result.bind_eq_error_iff.1 hfails
    · have hwithin := (c.answer_requested call).within hlookup
      exact hwithin.imp fun e he => ⟨.inl he, he.kind.2.2⟩
    · obtain ⟨_, _, _, _, hbuilt⟩ := built_of_requested hc hop
      unfold requestTo at hfails
      split at hfails
      · rename_i request hobject
        have hwithin := hbuilt.within_of_validateRequest hrequest hfails
        exact hwithin.imp fun e he => ⟨.inr ⟨op, request, hop, hobject, he⟩, he.kind⟩
      · cases hfails
        exact .fault _
  · rw [answerResponse_eq] at hfails
    obtain hlookup | ⟨op, hop, hfails⟩ := Result.bind_eq_error_iff.1 hfails
    · have hwithin := (c.answer_responded call).within hlookup
      exact hwithin.imp fun e he => ⟨.inl he, he.kind.2.1, he.kind.2.2.2⟩
    · obtain ⟨_, _, _, _, hbuilt⟩ := built_of_responded hc hop
      have hwithin := hbuilt.within_of_validateResponse hresponse hfails
      exact hwithin.imp fun e he => ⟨.inr ⟨op, hop, he⟩, he.kind⟩
  · exact ⟨fun _ => (c.index.answer_lookupValues path method).within,
      fun _ => (c.index.answer_serveValues path method).within,
      c.untyped_requestContentTypes path method⟩

end Contract

/-! ## The standard engine -/

-- An evaluation ends with a verdict or with a fault.
theorem Engine.untyped_verdict (options : EngineOptions) (outcome : Outcome) :
    Untyped (verdict options outcome) := by
  unfold verdict
  cases (if options.allErrors then outcome.all else outcome.first) with
  | ok violations => exact .ok _
  | error fault => exact Untyped.stop fault

theorem Engine.raisesNoContractError_standard (options : EngineOptions) (version : Option String) :
    (standard options version).RaisesNoContractError := by
  intro direction schema check hcheck v failure hfails
  obtain ⟨-, -, -, prepared, -, rfl⟩ := compileSchema_eq_ok_iff.1 hcheck
  obtain ⟨fault, rfl⟩ := untyped_verdict options _ failure hfails
  rfl

namespace Contract

/-- A path that asks for a size, and answers with a header that states a rate. -/
def sizedThings : Value :=
  .object [(.str "paths", .object [(.str "/things", .object [(.str "get", .object
    [(.str "parameters", .list [.object [(.str "name", .str "size"), (.str "in", .str "query"),
        (.str "required", .bool true)]]),
      (.str "responses", .object [(.str "200", .object [(.str "headers", .object
        [(.str "X-Rate", .object [(.str "required", .bool true)])])])])])])])]

/-- A request that states no size. -/
def sizeless : RequestCall := .byPath (.str "/things") (.str "GET") (.object [])

/-- A response that states no rate. -/
def rateless : ResponseCall := .byPath (.str "/things") (.str "GET") (.int 200) .null

-- A request without the size fails at the query, a response without the rate at its headers.
theorem missing_size_and_rate : ∃ c, build Engine.standard {} sizedThings = .ok c ∧
    (∃ (e : ContractError) (op : Operation) (request : Fields),
      c.answerRequest sizeless = .error (.contract e) ∧ e.location = "query" ∧
        op.RequestError request e) ∧
    ∃ (e : ContractError) (op : Operation),
      c.answerResponse rateless = .error (.contract e) ∧ e.location = "response-header" ∧
        op.ResponseError (.int 200) (.object []) e := by
  obtain ⟨c, hc⟩ : ∃ c, build Engine.standard {} sizedThings = .ok c :=
    Result.exists_of_isOk (by decide +kernel)
  have h := calls_fail_with_their_own_errors (Engine.raisesNoContractError_standard _ _)
    (Engine.raisesNoContractError_standard _ _) hc
  have hrequest : (build Engine.standard {} sizedThings >>= fun c => c.answerRequest sizeless) =
      .error (.contract (Operation.RequestAxis.query.rejection [.here (.missing (.str "size"))])) := by
    decide +kernel
  have hresponse : (build Engine.standard {} sizedThings >>= fun c => c.answerResponse rateless) =
      .error (.contract (Operation.ResponseAxis.header.rejection
        [.here (.missing (.str "x-rate"))])) := by
    decide +kernel
  rw [hc] at hrequest hresponse
  change c.answerRequest sizeless = _ at hrequest
  change c.answerResponse rateless = _ at hresponse
  obtain ⟨op, request, hop⟩ : ∃ (op : Operation) (request : Fields),
      op.RequestError request (Operation.RequestAxis.query.rejection
        [.here (.missing (.str "size"))]) := by
    cases h.1 _ _ hrequest with
    | contract he =>
      obtain ⟨hlookup | ⟨op, request, -, -, herror⟩, -⟩ := he
      · exact absurd hlookup.kind.1 (by decide)
      · exact ⟨op, request, herror⟩
  obtain ⟨other, hother⟩ : ∃ op : Operation, op.ResponseError (.int 200) (.object [])
      (Operation.ResponseAxis.header.rejection [.here (.missing (.str "x-rate"))]) := by
    cases h.2.1 _ _ hresponse with
    | contract he =>
      obtain ⟨hlookup | ⟨op, -, herror⟩, -⟩ := he
      · exact absurd hlookup.kind.1 (by decide)
      · exact ⟨op, herror⟩
  exact ⟨c, hc, ⟨_, op, request, hrequest, rfl, hop⟩, _, other, hresponse, rfl, hother⟩

end Contract

end ApiContract
