import ApiContract.Proofs.Contract.Found
import ApiContract.Proofs.Operation.Axis

/-!
# Letter case

The names of headers and cookies and the name of the method are compared without regard to letter
case. A call in which they are written in another case is answered alike: it is about the same
operation, its body is negotiated against the same media type, and the same values are put to the
checks.
-/

namespace ApiContract

/-! ## Messages in another letter case -/

/-- The same fields, one by one, under names that are the same in lower case. -/
def Fields.Recased : Fields → Fields → Prop :=
  List.Forall₂ fun f g =>
    Text.lower (Value.scalarText f.1) = Text.lower (Value.scalarText g.1) ∧ f.2 = g.2

/-- Values that are the same, or objects whose names differ in letter case only. -/
inductive RecasedNames : Value → Value → Prop
  | same (v : Value) : RecasedNames v v
  | object {fields others : Fields} (h : fields.Recased others) :
    RecasedNames (.object fields) (.object others)

/-- Methods that are the same text in lower case; a method that is no text stays as it is. -/
inductive RecasedMethod : Value → Value → Prop
  | same (v : Value) : RecasedMethod v v
  | text {s t : String} (h : Text.lower s = Text.lower t) : RecasedMethod (.str s) (.str t)

/-- What may be written in another letter case in a request: the names of headers and cookies, and the
method. -/
def RecasedRequestMember (key : Scalar) (v w : Value) : Prop :=
  if key = .str "header" ∨ key = .str "cookie" then RecasedNames v w
  else if key = .str "method" then RecasedMethod v w
  else v = w

/-- What may be written in another letter case in a response: the names of headers. -/
def RecasedResponseMember (key : Scalar) (v w : Value) : Prop :=
  if key = .str "header" then RecasedNames v w else v = w

/-- Messages that are the same, or objects whose members are related one by one. -/
inductive RecasedMessage (R : Scalar → Value → Value → Prop) : Value → Value → Prop
  | same (v : Value) : RecasedMessage R v v
  | object {fields others : Fields}
      (h : List.Forall₂ (fun f g => f.1 = g.1 ∧ R f.1 f.2 g.2) fields others) :
    RecasedMessage R (.object fields) (.object others)

/-- The same request call, but for letter case. -/
inductive RequestCall.Recased : RequestCall → RequestCall → Prop
  | named (path : Value) {request other : Value}
      (h : RecasedMessage RecasedRequestMember request other) :
    Recased (.named path request) (.named path other)
  | byPath (path : Value) {method method' request other : Value}
      (hmethod : RecasedMethod method method')
      (h : RecasedMessage RecasedRequestMember request other) :
    Recased (.byPath path method request) (.byPath path method' other)
  | byId (id : Value) {request other : Value}
      (h : RecasedMessage RecasedRequestMember request other) :
    Recased (.byId id request) (.byId id other)

/-- The same response call, but for letter case. -/
inductive ResponseCall.Recased : ResponseCall → ResponseCall → Prop
  | byPath (path : Value) {method method' : Value} (status : Value) {response other : Value}
      (hmethod : RecasedMethod method method')
      (h : RecasedMessage RecasedResponseMember response other) :
    Recased (.byPath path method status response) (.byPath path method' status other)
  | byId (id status : Value) {response other : Value}
      (h : RecasedMessage RecasedResponseMember response other) :
    Recased (.byId id status response) (.byId id status other)

/-! ## Headers and cookies -/

section

variable {v w : Value}

theorem ParameterValidator.lowerKeys_congr {fields others : Fields} (h : fields.Recased others) :
    lowerKeys fields = lowerKeys others := by
  have hpairs : fields.map (fun f => (Scalar.str (Text.lower (Value.scalarText f.1)), f.2)) =
      others.map (fun f => (Scalar.str (Text.lower (Value.scalarText f.1)), f.2)) :=
    Related.map_eq h fun f g hfg => by rw [hfg.1, hfg.2]
  rw [lowerKeys, lowerKeys, hpairs]

theorem ParameterValidator.caseInsensitive_of_build {location : String} {naming : Parameter.Naming}
    {kind : ErrorKind} {parameters : List Value} {engine : Engine (Except Failure)}
    {direction : Direction} {validator : ParameterValidator}
    (h : build location naming kind parameters engine direction = .ok validator) :
    validator.caseInsensitive = naming.caseInsensitive := by
  simp only [build, Result.ofExcept_eq, Result.bind_eq_ok_iff] at h
  obtain ⟨schema, -, unit, -, h⟩ := h
  rw [← Except.ok.inj h]

theorem ParameterValidator.caseInsensitive_of_ofHeaders {headers : Value}
    {engine : Engine (Except Failure)} {direction : Direction} {validator : ParameterValidator}
    (h : ofHeaders headers engine direction = .ok validator) :
    validator.caseInsensitive = true := by
  simp only [ofHeaders, Result.ofExcept_eq, Result.bind_eq_ok_iff] at h
  obtain ⟨parameters, -, h⟩ := h
  exact caseInsensitive_of_build h

-- A validator that leaves letter case aside answers alike.
theorem ParameterValidator.validate_congr {validator : ParameterValidator}
    (hcase : validator.caseInsensitive = true) (h : RecasedNames v w) :
    validator.validate v = validator.validate w := by
  cases h with
  | same => rfl
  | object h =>
    rw [validate_eq, validate_eq, candidate_object, candidate_object]
    simp only [hcase, if_true, bind, Except.bind, lowerKeys_congr h]

-- The content type is the first header of that name, in whatever case the names are written.
theorem MediaType.ofHeaders_congr (h : RecasedNames v w) : ofHeaders v = ofHeaders w := by
  cases h with
  | same => rfl
  | @object fields others h =>
    have hfound := Related.rel_find? (p := fun f => isContentType f.1)
      (q := fun f => isContentType f.1) h fun f g hfg => by rw [isContentType, isContentType, hfg.1]
    rw [ofHeaders, ofHeaders]
    generalize fields.find? _ = found at hfound
    generalize others.find? _ = found' at hfound
    cases hfound with
    | none => rfl
    | some hfg => rw [Option.bind_some, Option.bind_some, hfg.2]

/-! ## Members -/

-- Related messages have related members, where a missing member counts as null.
theorem rel_fieldOf {R : Scalar → Value → Value → Prop} {fields others : Fields}
    (h : List.Forall₂ (fun f g => f.1 = g.1 ∧ R f.1 f.2 g.2) fields others) {name : String}
    (hnull : R (.str name) .null .null) :
    R (.str name) (Operation.fieldOf fields name) (Operation.fieldOf others name) := by
  have hlookup := Related.rel_lookup h name
  rw [Operation.fieldOf, Operation.fieldOf]
  generalize Value.lookup fields name = found at hlookup
  generalize Value.lookup others name = found' at hlookup
  cases hlookup with
  | none => exact hnull
  | some hvw => exact hvw

theorem RecasedRequestMember.refl (key : Scalar) (v : Value) : RecasedRequestMember key v v := by
  unfold RecasedRequestMember
  split
  · exact .same v
  · split
    · exact .same v
    · rfl

theorem RecasedResponseMember.refl (key : Scalar) (v : Value) : RecasedResponseMember key v v := by
  unfold RecasedResponseMember
  split
  · exact .same v
  · rfl

theorem RecasedRequestMember.header (h : RecasedRequestMember (.str "header") v w) :
    RecasedNames v w := by
  rwa [RecasedRequestMember, if_pos (.inl rfl)] at h

theorem RecasedResponseMember.header (h : RecasedResponseMember (.str "header") v w) :
    RecasedNames v w := by
  rwa [RecasedResponseMember, if_pos rfl] at h

-- Whatever the message is, its headers are the same but for letter case.
theorem RecasedMessage.header {R : Scalar → Value → Value → Prop} (h : RecasedMessage R v w)
    (hrefl : ∀ key v, R key v v) (hheader : ∀ v w, R (.str "header") v w → RecasedNames v w) :
    RecasedNames ((v.member? "header").getD .null) ((w.member? "header").getD .null) := by
  cases h with
  | same => exact .same _
  | object h => exact hheader _ _ (rel_fieldOf h (hrefl (.str "header") .null))

-- The text of a field is the text of what counts as its value.
theorem bind_string?_eq (fields : Fields) (name : String) :
    (Value.lookup fields name).bind Value.string? = (Operation.fieldOf fields name).string? := by
  rw [Operation.fieldOf]
  cases Value.lookup fields name <;> rfl

end

/-! ### Requests and responses -/

/-- The members of two requests that are the same but for letter case. -/
abbrev RecasedRequest : Fields → Fields → Prop :=
  List.Forall₂ fun f g => f.1 = g.1 ∧ RecasedRequestMember f.1 f.2 g.2

namespace RecasedRequest

variable {fields others : Fields} (h : RecasedRequest fields others)
include h

theorem header : RecasedNames (Operation.fieldOf fields "header")
    (Operation.fieldOf others "header") :=
  (rel_fieldOf h (.refl (.str "header") .null)).header

theorem cookie : RecasedNames (Operation.fieldOf fields "cookie")
    (Operation.fieldOf others "cookie") := by
  have hmember := rel_fieldOf h (.refl (.str "cookie") .null)
  rwa [RecasedRequestMember, if_pos (.inr rfl)] at hmember

theorem method : RecasedMethod (Operation.fieldOf fields "method")
    (Operation.fieldOf others "method") := by
  have hmember := rel_fieldOf h (.refl (.str "method") .null)
  rwa [RecasedRequestMember, if_neg (by decide), if_pos rfl] at hmember

theorem fieldOf_eq {name : String} (hname : name ∉ ["header", "cookie", "method"]) :
    Operation.fieldOf fields name = Operation.fieldOf others name := by
  have hmember := rel_fieldOf h (.refl (.str name) .null)
  simp only [List.mem_cons, List.not_mem_nil, or_false, not_or] at hname
  simpa [RecasedRequestMember, hname] using hmember

end RecasedRequest

/-- The members of two responses that are the same but for letter case. -/
abbrev RecasedResponse : Fields → Fields → Prop :=
  List.Forall₂ fun f g => f.1 = g.1 ∧ RecasedResponseMember f.1 f.2 g.2

namespace RecasedResponse

variable {fields others : Fields} (h : RecasedResponse fields others)
include h

theorem header : RecasedNames (Operation.fieldOf fields "header")
    (Operation.fieldOf others "header") :=
  (rel_fieldOf h (.refl (.str "header") .null)).header

theorem body_eq : Operation.fieldOf fields "body" = Operation.fieldOf others "body" := by
  have hmember := rel_fieldOf h (.refl (.str "body") .null)
  rwa [RecasedResponseMember, if_neg (by decide)] at hmember

end RecasedResponse

/-! ## Operations -/

namespace Operation

variable {op : Operation} {path method : String} {declared : Fields} {ofPath : Value}
  {requestEngine responseEngine : Engine (Except Failure)} {fields others : Fields}

theorem reportedId_congr (h : RecasedRequest fields others) (lookedUp : Option String) :
    op.reportedId fields lookedUp = op.reportedId others lookedUp := by
  rw [reportedId, reportedId, bind_string?_eq, bind_string?_eq, h.fieldOf_eq (by decide)]

-- Each axis of a request leaves letter case aside where the request may be written in another one.
theorem Built.requestAnswer_recased
    (hbuilt : Built path method declared requestEngine responseEngine ofPath op)
    (h : RecasedRequest fields others) (axis : RequestAxis) :
    op.requestAnswer fields axis = op.requestAnswer others axis := by
  cases axis with
  | path => rw [requestAnswer, requestAnswer, h.fieldOf_eq (by decide)]
  | query => rw [requestAnswer, requestAnswer, h.fieldOf_eq (by decide)]
  | header =>
    exact ParameterValidator.validate_congr
      (ParameterValidator.caseInsensitive_of_build hbuilt.headerParameters) h.header
  | cookie =>
    exact ParameterValidator.validate_congr
      (ParameterValidator.caseInsensitive_of_build hbuilt.cookieParameters) h.cookie
  | body =>
    have hbody : fieldOf fields "body" = fieldOf others "body" := h.fieldOf_eq (by decide)
    rw [requestAnswer, requestAnswer, validateRequestBody, validateRequestBody, hbody,
      MediaType.ofHeaders_congr h.header]

theorem Built.validateRequest_recased
    (hbuilt : Built path method declared requestEngine responseEngine ofPath op)
    (h : RecasedRequest fields others) (lookedUp : Option String) :
    op.validateRequest fields lookedUp = op.validateRequest others lookedUp := by
  have hanswers : op.requestAnswer fields = op.requestAnswer others :=
    funext (hbuilt.requestAnswer_recased h)
  rw [validateRequest_eq, validateRequest_eq, hanswers, reportedId_congr h]

theorem Built.requestTo_recased
    (hbuilt : Built path method declared requestEngine responseEngine ofPath op)
    {request other : Value} (h : RecasedMessage RecasedRequestMember request other)
    (lookedUp : Option String) :
    Contract.requestTo op request lookedUp = Contract.requestTo op other lookedUp := by
  cases h with
  | same => rfl
  | object h => exact hbuilt.validateRequest_recased h lookedUp

theorem Built.validateResponse_recased
    (hbuilt : Built path method declared requestEngine responseEngine ofPath op) (status : Value)
    {response other : Value} (h : RecasedMessage RecasedResponseMember response other) :
    op.validateResponse status response = op.validateResponse status other := by
  cases h with
  | same => rfl
  | object h =>
    have hheader := RecasedResponse.header h
    refine Result.bind_congr fun selected hselected => ?_
    obtain ⟨_, hbuild, -⟩ := exists_of_buildResponses hbuilt.responses _ (mem_of_selected hselected)
    have hcase := ParameterValidator.caseInsensitive_of_ofHeaders hbuild
    dsimp only
    rw [ParameterValidator.validate_congr hcase hheader, RecasedResponse.body_eq h,
      MediaType.ofHeaders_congr hheader]

end Operation

/-! ## Lookups -/

namespace PathIndex

variable {method method' : Value}

-- A lookup goes by the method in lower case.
theorem lookup_recased {s t : String} (h : Text.lower s = Text.lower t) (index : PathIndex)
    (path : String) : index.lookup path s = index.lookup path t := by
  rw [lookup, lookup, h]

theorem serve_recased {s t : String} (h : Text.lower s = Text.lower t) (index : PathIndex)
    (path : String) : index.serve path (some s) = index.serve path (some t) := by
  have hpreferred : ∀ routes, preferred (some s) routes = preferred (some t) routes := fun routes => by
    rw [preferred, preferred, h]
  rw [serve, serve, hpreferred]

theorem lookupValues_recased (h : RecasedMethod method method') (index : PathIndex) (path : Value) :
    index.lookupValues path method = index.lookupValues path method' := by
  cases h with
  | same => rfl
  | text h => simp only [lookupValues, methodOf, bind, Except.bind, lookup_recased h]

theorem serveValues_recased (h : RecasedMethod method method') (index : PathIndex) (path : Value) :
    index.serveValues path method = index.serveValues path method' := by
  cases h with
  | same => rfl
  | text h => simp only [serveValues, methodOf, bind, Except.bind, pure, Except.pure, serve_recased h]

end PathIndex

/-! ## Calls -/

/-- The entry of a content map that the body of a message is negotiated against. -/
def BodyValidator.negotiated (b : BodyValidator) (message : Value) :
    Except Failure (Option (String × SchemaUnit)) := do
  return b.resolve (← MediaType.ofHeaders ((message.member? "header").getD .null))

-- What a body is negotiated against depends on the headers alone.
theorem BodyValidator.negotiated_congr {b : BodyValidator} {v w : Value}
    (h : RecasedNames ((v.member? "header").getD .null) ((w.member? "header").getD .null)) :
    b.negotiated v = b.negotiated w := by
  rw [negotiated, negotiated, MediaType.ofHeaders_congr h]

namespace Contract

-- Requests name their methods in any case.
theorem methodOfRequest_recased {request other : Value}
    (h : RecasedMessage RecasedRequestMember request other) :
    Result.Matches Eq (fun s t => Text.lower s = Text.lower t) (methodOfRequest request)
      (methodOfRequest other) := by
  cases h with
  | same =>
    cases methodOfRequest request with
    | ok s => exact .ok rfl
    | error failure => exact .error rfl
  | object h =>
    have hmethod := RecasedRequest.method h
    rw [methodOfRequest, methodOfRequest, bind_string?_eq, bind_string?_eq]
    refine .ok ?_
    generalize Operation.fieldOf _ "method" = v at hmethod
    generalize Operation.fieldOf _ "method" = w at hmethod
    cases hmethod with
    | same => rfl
    | text h => exact h

theorem requested_recased (c : Contract) {call other : RequestCall} (h : call.Recased other) :
    c.requested call = c.requested other := by
  cases h with
  | named path h =>
    refine ((methodOfRequest_recased h).bind_eq fun s t hst => ?_).symm
    exact (PathIndex.lookupValues_recased (.text hst) c.index path).symm
  | byPath path hmethod => exact PathIndex.lookupValues_recased hmethod c.index path
  | byId id => rfl

theorem responded_recased (c : Contract) {call other : ResponseCall} (h : call.Recased other) :
    c.responded call = c.responded other := by
  cases h with
  | byPath path status hmethod => exact PathIndex.lookupValues_recased hmethod c.index path
  | byId id status => rfl

-- An empty response stays empty.
theorem responseOrEmpty_recased {response other : Value}
    (h : RecasedMessage RecasedResponseMember response other) :
    RecasedMessage RecasedResponseMember (responseOrEmpty response) (responseOrEmpty other) := by
  cases h with
  | same => exact .same _
  | object h =>
    rw [responseOrEmpty, responseOrEmpty, Value.truthy, Value.truthy, Related.isEmpty_eq h]
    split
    · exact .object h
    · exact .same _

end Contract

theorem RequestCall.Recased.request {call other : RequestCall} (h : call.Recased other) :
    RecasedMessage RecasedRequestMember call.request other.request ∧
      call.lookedUp = other.lookedUp := by
  cases h with
  | named path h => exact ⟨h, rfl⟩
  | byPath path hmethod h => exact ⟨h, rfl⟩
  | byId id h => exact ⟨h, rfl⟩

theorem ResponseCall.Recased.response {call other : ResponseCall} (h : call.Recased other) :
    RecasedMessage RecasedResponseMember call.response other.response ∧
      call.status = other.status := by
  cases h with
  | byPath path status hmethod h => exact ⟨Contract.responseOrEmpty_recased h, rfl⟩
  | byId id status h => exact ⟨Contract.responseOrEmpty_recased h, rfl⟩

namespace Contract

variable {engine : EngineOptions → Option String → Engine (Except Failure)}
  {options : ContractOptions} {document : Value} {c : Contract}

/-- The names of headers and cookies and the method may be written in any letter case, one by one, as
long as each stays the same in lower case. A request or a response has the same outcome: the same
reported id and status or the same failure, from the same operation, with its body negotiated against
the same entry of a content map. Lookups with a method in another case have the same result. -/
theorem letter_case_makes_no_difference (hc : build engine options document = .ok c) :
    (∀ call other : RequestCall, call.Recased other →
      c.answerRequest call = c.answerRequest other ∧ c.requested call = c.requested other ∧
        ∀ b : BodyValidator, b.negotiated call.request = b.negotiated other.request) ∧
    (∀ call other : ResponseCall, call.Recased other →
      c.answerResponse call = c.answerResponse other ∧ c.responded call = c.responded other ∧
        ∀ b : BodyValidator, b.negotiated call.response = b.negotiated other.response) ∧
    ∀ path method method', RecasedMethod method method' →
      c.index.lookupValues path method = c.index.lookupValues path method' ∧
        c.index.serveValues path method = c.index.serveValues path method' ∧
        c.requestContentTypes path method = c.requestContentTypes path method' := by
  refine ⟨fun call other h => ⟨?_, c.requested_recased h, fun b => ?_⟩,
    fun call other h => ⟨?_, c.responded_recased h, fun b => ?_⟩, fun path method method' h => ?_⟩
  · rw [answerRequest_eq, answerRequest_eq, ← c.requested_recased h, ← h.request.2]
    refine Result.bind_congr fun op hop => ?_
    obtain ⟨_, _, _, _, hbuilt⟩ := built_of_requested hc hop
    exact hbuilt.requestTo_recased h.request.1 _
  · exact b.negotiated_congr (h.request.1.header .refl fun _ _ => RecasedRequestMember.header)
  · rw [answerResponse_eq, answerResponse_eq, ← c.responded_recased h, ← h.response.2]
    refine Result.bind_congr fun op hop => ?_
    obtain ⟨_, _, _, _, hbuilt⟩ := built_of_responded hc hop
    exact hbuilt.validateResponse_recased _ h.response.1
  · exact b.negotiated_congr (h.response.1.header .refl fun _ _ => RecasedResponseMember.header)
  · have hlookup := PathIndex.lookupValues_recased h c.index path
    refine ⟨hlookup, PathIndex.serveValues_recased h c.index path, ?_⟩
    rw [requestContentTypes, requestContentTypes, hlookup]

/-- A path that asks for a header and for a body of one of two types. -/
def guardedThings : Value :=
  .object [(.str "paths", .object [(.str "/things", .object [(.str "post", .object
    [(.str "operationId", .str "add"),
      (.str "parameters", .list [.object [(.str "name", .str "X-Token"),
        (.str "in", .str "header"), (.str "required", .bool true)]]),
      (.str "requestBody", .object [(.str "content", .object
        [(.str "application/json", .object []),
          (.str "text/plain", .object [(.str "schema",
            .object [(.str "type", .str "string")])])])])])])])]

/-- A thing to be added, with given names of the two headers and of the cookie. -/
def guardedThing (token contentType session : String) : Value :=
  .object [(.str "header", .object [(.str token, .str "t"),
      (.str contentType, .str "application/json")]),
    (.str "cookie", .object [(.str session, .str "s")]), (.str "body", .object [])]

-- However the names are written, the thing is added.
theorem thing_added_in_any_case : ∃ c, build Engine.standard {} guardedThings = .ok c ∧
    c.answerRequest (.byPath (.str "/things") (.str "POST")
      (guardedThing "X-Token" "Content-Type" "Session")) = .ok (some "add") ∧
    c.answerRequest (.byPath (.str "/things") (.str "post")
      (guardedThing "x-TOKEN" "CONTENT-type" "SESSION")) = .ok (some "add") := by
  obtain ⟨c, hc⟩ : ∃ c, build Engine.standard {} guardedThings = .ok c :=
    Result.exists_of_isOk (by decide +kernel)
  have hanswer : (build Engine.standard {} guardedThings >>= fun c =>
      c.answerRequest (.byPath (.str "/things") (.str "POST")
        (guardedThing "X-Token" "Content-Type" "Session"))) = .ok (some "add") := by
    decide +kernel
  rw [hc] at hanswer
  have hmethod : Text.lower "POST" = Text.lower "post" := by decide +kernel
  have hheader : RecasedRequestMember (.str "header")
      (.object [(.str "X-Token", .str "t"), (.str "Content-Type", .str "application/json")])
      (.object [(.str "x-TOKEN", .str "t"), (.str "CONTENT-type", .str "application/json")]) := by
    rw [RecasedRequestMember, if_pos (.inl rfl)]
    exact .object (.cons ⟨by decide +kernel, rfl⟩ (.cons ⟨by decide +kernel, rfl⟩ .nil))
  have hcookie : RecasedRequestMember (.str "cookie") (.object [(.str "Session", .str "s")])
      (.object [(.str "SESSION", .str "s")]) := by
    rw [RecasedRequestMember, if_pos (.inr rfl)]
    exact .object (.cons ⟨by decide +kernel, rfl⟩ .nil)
  have hrecased : RecasedMessage RecasedRequestMember
      (guardedThing "X-Token" "Content-Type" "Session")
      (guardedThing "x-TOKEN" "CONTENT-type" "SESSION") :=
    .object (.cons ⟨rfl, hheader⟩ (.cons ⟨rfl, hcookie⟩ (.cons ⟨rfl, .refl _ _⟩ .nil)))
  have h := (letter_case_makes_no_difference hc).1 _ _
    (.byPath (.str "/things") (.text hmethod) hrecased)
  exact ⟨c, hc, hanswer, h.1 ▸ hanswer⟩

end Contract

end ApiContract
