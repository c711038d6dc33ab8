import ApiContract.Proofs.Contract.Errors

/-!
# The response that answers a status

A status is answered by what is declared under the first of three keys that has a response: the
normalized status, its range and the default. Of several responses under one key the last one answers,
and what is no object is no response. What is declared under other keys than the one that answers makes
no difference, as long as the status has a response of its own.
-/

namespace ApiContract

namespace ResponseValidator

/-- Check a response: headers first, then body. -/
def validate (validator : ResponseValidator) : Value → Except Failure PUnit.{1}
  | .object fields => do
    validator.header.validate (Operation.fieldOf fields "header")
    validator.body.validate (Operation.fieldOf fields "body")
      (← MediaType.ofHeaders (Operation.fieldOf fields "header"))
  | _ => stop .wrongShape

-- No contract error of a check is about the lack of a response.
theorem kind_of_validate {engine : Engine (Except Failure)} {validator : ResponseValidator}
    (hheader : ParameterValidator.BuiltFor engine .response .responseHeaderValidation
      "response-header" validator.header)
    (hbody : BodyValidator.BuiltFor engine .response validator.body)
    (hengine : engine.RaisesNoContractError) {response : Value} {e : ContractError}
    (hfails : validator.validate response = .error (.contract e)) :
    e.kind = .responseHeaderValidation ∨ e.kind = .responseBodyValidation := by
  cases response with
  | scalar s => cases hfails
  | list items => cases hfails
  | object fields =>
    obtain hfails | ⟨_, -, hfails⟩ := Result.bind_eq_error_iff.1 hfails
    · obtain hquestion | ⟨fault, hfault⟩ | ⟨violations, -, heq⟩ :=
        (hheader.answers _).error_cases hengine hfails
      · obtain ⟨fault, hfault⟩ := ParameterValidator.untyped_question _ _ _ hquestion
        cases hfault
      · cases hfault
      · cases heq
        exact .inl rfl
    · cases BodyValidator.within_of_validate hbody hengine hfails with
      | contract he => exact .inr he.kind_eq

end ResponseValidator

namespace Operation

/-! ## Declared responses -/

/-- The responses that are declared under a normalized status, in order. -/
def responsesUnder (declared : Fields) (key : String) : List Fields :=
  ((keyedResponses declared).filter fun entry => entry.1 == key).map (·.2)

/-- The responses that an operation declares. -/
abbrev responsesOf (fields : Fields) : Fields := declaredResponses (Value.lookup fields "responses")

/-- The response is the last one under the first of the keys that has any. -/
inductive AnsweredBy (declared : Fields) : List String → String → Fields → Prop
  | here {key : String} {rest : List String} {response : Fields}
      (last : (responsesUnder declared key).getLast? = some response) :
      AnsweredBy declared (key :: rest) key response
  | later {other : String} {rest : List String} {key : String} {response : Fields}
      (undeclared : responsesUnder declared other = [])
      (answered : AnsweredBy declared rest key response) :
      AnsweredBy declared (other :: rest) key response

variable {path method : String} {fields : Fields} {ofPath : Value}
  {requestEngine responseEngine : Engine (Except Failure)} {op : Operation}

-- Under a key there is what is built from the last response that is declared there.
theorem Built.rel_response? (h : Built path method fields requestEngine responseEngine ofPath op)
    (key : String) :
    Option.Rel (fun response validator => buildResponse responseEngine response = .ok validator)
      (responsesUnder (responsesOf fields) key).getLast? (op.response? key) := by
  rw [responsesUnder, ← ApiContract.Related.lookup_reverse, response?]
  have hbuilt := List.forall₂_reverse_iff.2 (forall₂_of_buildResponses h.responses)
  exact ApiContract.Related.rel_listLookup
    (R := fun _ response validator => buildResponse responseEngine response = .ok validator) hbuilt key

/-! ## Selection -/

-- What is checked is what is selected.
theorem validateResponse_eq_bind (op : Operation) (status response : Value) :
    op.validateResponse status response = op.selected status >>= fun selected =>
      (selected.2.validate response).map fun _ => ⟨op.id, selected.1⟩ := by
  rw [validateResponse, show (op.selectResponse (Status.normalize status)).mapError Failure.contract =
    op.selected status from rfl]
  refine Result.bind_congr fun selected _ => ?_
  cases response with
  | scalar s => rfl
  | list items => rfl
  | object fields =>
    simp only [ResponseValidator.validate, Result.map_bind]
    rfl

-- Some key has a response that answers, or none has any.
theorem undeclared_or_answeredBy (declared : Fields) (keys : List String) :
    (∀ key ∈ keys, responsesUnder declared key = []) ∨
      ∃ key response, AnsweredBy declared keys key response := by
  induction keys with
  | nil => exact .inl nofun
  | cons key rest ih =>
    cases hlast : (responsesUnder declared key).getLast? with
    | some response => exact .inr ⟨key, response, .here hlast⟩
    | none =>
      have hundeclared : responsesUnder declared key = [] := List.getLast?_eq_none_iff.1 hlast
      rcases ih with hrest | ⟨found, response, hanswered⟩
      · exact .inl (List.forall_mem_cons.2 ⟨hundeclared, hrest⟩)
      · exact .inr ⟨found, response, .later hundeclared hanswered⟩

namespace Built

-- Under a key without responses there is no validator.
theorem response?_of_undeclared
    (h : Built path method fields requestEngine responseEngine ofPath op) {key : String}
    (hundeclared : responsesUnder (responsesOf fields) key = []) : op.response? key = none := by
  have hrel := h.rel_response? key
  rw [hundeclared] at hrel
  generalize op.response? key = found at hrel
  cases hrel
  rfl

-- Looking under the keys in order finds the response that answers.
theorem findSome?_response? (h : Built path method fields requestEngine responseEngine ofPath op)
    {keys : List String} {key : String} {response : Fields}
    (hanswered : AnsweredBy (responsesOf fields) keys key response) :
    ∃ validator, buildResponse responseEngine response = .ok validator ∧
      keys.findSome? (fun key => (op.response? key).map (key, ·)) = some (key, validator) := by
  induction hanswered with
  | @here key rest response hlast =>
    have hrel := h.rel_response? key
    rw [hlast] at hrel
    generalize hfound : op.response? key = found at hrel
    cases hrel with
    | @some _ validator hvalidator =>
      exact ⟨validator, hvalidator, by rw [List.findSome?_cons, hfound]; rfl⟩
  | later hundeclared _ ih =>
    obtain ⟨validator, hvalidator, hfound⟩ := ih
    refine ⟨validator, hvalidator, ?_⟩
    rw [List.findSome?_cons, h.response?_of_undeclared hundeclared]
    exact hfound

theorem selected_of_answeredBy (h : Built path method fields requestEngine responseEngine ofPath op)
    {status : Value} {key : String} {response : Fields}
    (hanswered : AnsweredBy (responsesOf fields) (Status.candidates (Status.normalize status)) key
      response) :
    ∃ validator, buildResponse responseEngine response = .ok validator ∧
      op.selected status = .ok (key, validator) := by
  obtain ⟨validator, hvalidator, hfound⟩ := h.findSome?_response? hanswered
  refine ⟨validator, hvalidator, ?_⟩
  rw [selected, selectResponse, hfound]
  rfl

theorem selected_of_undeclared (h : Built path method fields requestEngine responseEngine ofPath op)
    {status : Value} (hundeclared : ∀ key ∈ Status.candidates (Status.normalize status),
      responsesUnder (responsesOf fields) key = []) :
    op.selected status = .error (.contract (.noResponse (Status.normalize status))) := by
  have hnone : (Status.candidates (Status.normalize status)).findSome?
      (fun key => (op.response? key).map (key, ·)) = none := by
    rw [List.findSome?_eq_none_iff]
    intro key hkey
    rw [h.response?_of_undeclared (hundeclared key hkey), Option.map_none]
  rw [selected, selectResponse, hnone]
  rfl

-- The selected validator checks the response, which is reported under its key.
theorem validateResponse_of_answeredBy
    (h : Built path method fields requestEngine responseEngine ofPath op) {status : Value}
    {key : String} {response : Fields} (hanswered : AnsweredBy (responsesOf fields)
      (Status.candidates (Status.normalize status)) key response) :
    ∃ validator, buildResponse responseEngine response = .ok validator ∧
      ∀ v, op.validateResponse status v = (validator.validate v).map fun _ => ⟨op.id, key⟩ := by
  obtain ⟨validator, hvalidator, hselected⟩ := h.selected_of_answeredBy hanswered
  refine ⟨validator, hvalidator, fun v => ?_⟩
  rw [validateResponse_eq_bind, hselected]
  rfl

theorem validateResponse_of_undeclared
    (h : Built path method fields requestEngine responseEngine ofPath op) {status : Value}
    (hundeclared : ∀ key ∈ Status.candidates (Status.normalize status),
      responsesUnder (responsesOf fields) key = []) (v : Value) :
    op.validateResponse status v =
      .error (.contract (.noResponse (Status.normalize status))) := by
  rw [validateResponse_eq_bind, h.selected_of_undeclared hundeclared]
  rfl

-- A response is missing exactly when nothing is declared under any of the keys.
theorem missing_iff (h : Built path method fields requestEngine responseEngine ofPath op)
    (hengine : responseEngine.RaisesNoContractError) (status v : Value) :
    (∃ e, op.validateResponse status v = .error (.contract e) ∧
      e.kind = .responseDefinitionMissing) ↔
      ∀ key ∈ Status.candidates (Status.normalize status),
        responsesUnder (responsesOf fields) key = [] := by
  constructor
  · rintro ⟨e, hfails, hkind⟩
    obtain hundeclared | ⟨key, response, hanswered⟩ := undeclared_or_answeredBy (responsesOf fields)
      (Status.candidates (Status.normalize status))
    · exact hundeclared
    · obtain ⟨validator, -, hselected⟩ := h.selected_of_answeredBy hanswered
      obtain ⟨hheader, hbody⟩ := builtFor_of_buildResponses h.responses _ (mem_of_selected hselected)
      rw [validateResponse_eq_bind, hselected] at hfails
      have hvalidate : validator.validate v = .error (.contract e) := by
        cases hvalidate : validator.validate v with
        | ok _ => simp [bind, Except.bind, Except.map, hvalidate] at hfails
        | error failure => simpa [bind, Except.bind, Except.map, hvalidate] using hfails
      obtain hother | hother := ResponseValidator.kind_of_validate hheader hbody hengine hvalidate
      · rw [hother] at hkind
        cases hkind
      · rw [hother] at hkind
        cases hkind
  · intro hundeclared
    exact ⟨_, h.validateResponse_of_undeclared hundeclared v, rfl⟩

end Built

/-- Which response answers. It is the last one that is declared under the first of three keys that has
any: the normalized status, its range and the default; a response is checked with what is built from
it, and reported under the key. No response is found exactly when none of the three keys has one. The
outcome depends on nothing of the status but its normalized form. Two operations with one id that
declare the same responses under a normalized status, at least one, give the same outcomes for it,
whatever they declare under other keys. -/
theorem status_answered_by_first_declared
    (hop : build path method fields requestEngine responseEngine ofPath = .ok op) :
    (∀ status key response, AnsweredBy (responsesOf fields)
        (Status.candidates (Status.normalize status)) key response →
      ∃ validator, buildResponse responseEngine response = .ok validator ∧
        ∀ v, op.validateResponse status v = (validator.validate v).map fun _ => ⟨op.id, key⟩) ∧
    (∀ status, (∀ key ∈ Status.candidates (Status.normalize status),
        responsesUnder (responsesOf fields) key = []) →
      ∀ v, op.validateResponse status v =
        .error (.contract (.noResponse (Status.normalize status)))) ∧
    (responseEngine.RaisesNoContractError → ∀ status v,
      ((∃ e, op.validateResponse status v = .error (.contract e) ∧
        e.kind = .responseDefinitionMissing) ↔
          ∀ key ∈ Status.candidates (Status.normalize status),
            responsesUnder (responsesOf fields) key = [])) ∧
    (∀ status other, Status.normalize status = Status.normalize other →
      ∀ v, op.validateResponse status v = op.validateResponse other v) ∧
    ∀ path' method' fields' requestEngine' ofPath' op',
      build path' method' fields' requestEngine' responseEngine ofPath' = .ok op' →
      Value.lookup fields' "operationId" = Value.lookup fields "operationId" →
      ∀ status, responsesUnder (responsesOf fields) (Status.normalize status) ≠ [] →
        responsesUnder (responsesOf fields') (Status.normalize status) =
          responsesUnder (responsesOf fields) (Status.normalize status) →
        ∀ v, op'.validateResponse status v = op.validateResponse status v := by
  have hbuilt := built_of_build hop
  refine ⟨fun status key response => hbuilt.validateResponse_of_answeredBy,
    fun status => hbuilt.validateResponse_of_undeclared, hbuilt.missing_iff, ?_, ?_⟩
  · intro status other hsame v
    rw [validateResponse, validateResponse, hsame]
  · intro path' method' fields' requestEngine' ofPath' op' hop' hid status hdeclared hsame v
    have hbuilt' := built_of_build hop'
    have hlast := List.getLast?_eq_some_getLast hdeclared
    have hanswered : AnsweredBy (responsesOf fields) (Status.candidates (Status.normalize status))
        (Status.normalize status) _ := .here hlast
    have hanswered' : AnsweredBy (responsesOf fields') (Status.candidates (Status.normalize status))
        (Status.normalize status) _ := .here ((congrArg List.getLast? hsame).trans hlast)
    obtain ⟨validator, hvalidator, hanswers⟩ := hbuilt.validateResponse_of_answeredBy hanswered
    obtain ⟨validator', hvalidator', hanswers'⟩ := hbuilt'.validateResponse_of_answeredBy hanswered'
    obtain rfl : validator = validator' := Except.ok.inj (hvalidator.symm.trans hvalidator')
    rw [hanswers, hanswers', hbuilt.id_eq, hbuilt'.id_eq, hid]

/-- A response that states a rate. -/
def ratedResponse : Fields :=
  [(.str "headers", .object [(.str "X-Rate", .object [(.str "required", .bool true)])])]

/-- Two responses under one status, of which the later one states a rate, and what is no response. -/
def missingThing : Fields :=
  [(.str "responses", .object
    [(.int 404, .object []), (.str " 404 ", .object ratedResponse), (.str "404", .null)])]

/-- The same with a response for the range and one for all other statuses. -/
def missingThingOrOther : Fields :=
  [(.str "responses", .object
    [(.str "4xx", .object []), (.int 404, .object []), (.str " 404 ", .object ratedResponse),
      (.str "404", .null), (.str " Default", .object [])])]

-- However the status is written, the later response answers, with and without the others. Where
-- there are no others, a status that is not declared has no response.
theorem missing_thing_answered_alike : ∃ op op' : Operation,
    build "/things" "get" missingThing (Engine.standard {} none) (Engine.standard {} none) .null =
      .ok op ∧
    build "/things" "get" missingThingOrOther (Engine.standard {} none) (Engine.standard {} none)
      .null = .ok op' ∧
    (∃ validator, buildResponse (Engine.standard {} none) ratedResponse = .ok validator ∧
      ∀ v, op.validateResponse (.int 404) v = (validator.validate v).map fun _ => ⟨none, "404"⟩) ∧
    (∀ v, op.validateResponse (.str "404") v = op.validateResponse (.int 404) v ∧
      op.validateResponse (.str " 404 ") v = op.validateResponse (.int 404) v ∧
      op'.validateResponse (.int 404) v = op.validateResponse (.int 404) v) ∧
    ∃ e, op.validateResponse (.int 410) .null = .error (.contract e) ∧
      e.kind = .responseDefinitionMissing := by
  obtain ⟨op, hop⟩ : ∃ op, build "/things" "get" missingThing (Engine.standard {} none)
      (Engine.standard {} none) .null = .ok op := Result.exists_of_isOk (by decide +kernel)
  obtain ⟨op', hop'⟩ : ∃ op, build "/things" "get" missingThingOrOther (Engine.standard {} none)
      (Engine.standard {} none) .null = .ok op := Result.exists_of_isOk (by decide +kernel)
  obtain ⟨hanswered, -, hmissing, hforms, hothers⟩ := status_answered_by_first_declared hop
  have hlast : (responsesUnder (responsesOf missingThing) "404").getLast? =
      some ratedResponse := by decide +kernel
  have hkeys : Status.candidates (Status.normalize (.int 404)) = ["404", "4XX", "default"] := by
    decide +kernel
  have hfirst : AnsweredBy (responsesOf missingThing)
      (Status.candidates (Status.normalize (.int 404))) "404" ratedResponse := by
    rw [hkeys]
    exact .here hlast
  obtain ⟨validator, hvalidator, hanswers⟩ := hanswered _ _ _ hfirst
  refine ⟨op, op', hop, hop', ⟨validator, hvalidator, fun v => ?_⟩, fun v => ⟨?_, ?_, ?_⟩, ?_⟩
  · rw [hanswers, (built_of_build hop).id_eq]
    rfl
  · exact hforms _ _ (by decide +kernel) v
  · exact hforms _ _ (by decide +kernel) v
  · exact hothers _ _ _ _ _ op' hop' (by decide +kernel) (.int 404) (by decide +kernel)
      (by decide +kernel) v
  · exact (hmissing (Engine.raisesNoContractError_standard _ _) (.int 410) .null).2 (by decide +kernel)

end Operation

end ApiContract
