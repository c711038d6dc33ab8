import ApiContract.Operation.Basic
import ApiContract.Proofs.Related
import ApiContract.Proofs.Result

/-!
# Built operations

What building an operation gives: each of its validators, from the part of the document that it is
built from and the engine of its direction.
-/

namespace ApiContract.Operation

variable {path method : String} {fields : Fields} {ofPath : Value} {op : Operation}
  {requestEngine responseEngine : Engine (Except Failure)}

/-- The operation is what its fields, together with the parameters of its path, are built into. -/
structure Built (path method : String) (fields : Fields)
    (requestEngine responseEngine : Engine (Except Failure)) (ofPath : Value) (op : Operation) :
    Prop where
  path_eq : op.path = path
  method_eq : op.method = Text.lower method
  id_eq : op.id = (Value.lookup fields "operationId").bind Value.string?
  pathParameters : ParameterValidator.ofLocation "path"
    (located "path" (Parameter.merge ofPath (fieldOf fields "parameters"))) requestEngine =
      .ok op.pathParameters
  queryParameters : ParameterValidator.ofLocation "query"
    (located "query" (Parameter.merge ofPath (fieldOf fields "parameters"))) requestEngine =
      .ok op.queryParameters
  headerParameters : ParameterValidator.ofHeaderParameters
    (located "header" (Parameter.merge ofPath (fieldOf fields "parameters"))) requestEngine
      .request = .ok op.headerParameters
  cookieParameters : ParameterValidator.ofLocation "cookie"
    (located "cookie" (Parameter.merge ofPath (fieldOf fields "parameters"))) requestEngine =
      .ok op.cookieParameters
  requestBody : buildRequestBody requestEngine (Value.lookup fields "requestBody") =
    .ok op.requestBody
  responses : buildResponses responseEngine (declaredResponses (Value.lookup fields "responses")) =
    .ok op.responses

-- Building succeeds only with the operation that all parts are built into.
theorem built_of_build
    (h : build path method fields requestEngine responseEngine ofPath = .ok op) :
    Built path method fields requestEngine responseEngine ofPath op := by
  unfold build at h
  simp only [Result.bind_eq_ok_iff] at h
  obtain ⟨pathP, hpath, queryP, hquery, headerP, hheader, cookieP, hcookie, body, hbody, responses,
    hresponses, hop⟩ := h
  rcases Except.ok.inj hop with rfl
  exact ⟨rfl, rfl, rfl, hpath, hquery, hheader, hcookie, hbody, hresponses⟩

/-- The declared responses with their normalized statuses. What is no object is no response. -/
def keyedResponses (declared : Fields) : List (String × Fields) :=
  declared.filterMap fun entry =>
    entry.2.fields?.map (Status.normalize (.scalar entry.1), ·)

-- The validators are built one by one from the declared responses.
theorem forall₂_of_buildResponses {declared : Fields} {responses : List (String × ResponseValidator)}
    (h : buildResponses responseEngine declared = .ok responses) :
    List.Forall₂ (fun entry built => entry.1 = built.1 ∧
      buildResponse responseEngine entry.2 = .ok built.2) (keyedResponses declared) responses := by
  induction declared generalizing responses with
  | nil =>
    cases h
    exact .nil
  | cons entry rest ih =>
    obtain ⟨status, v⟩ := entry
    cases v with
    | object fields =>
      unfold buildResponses at h
      simp only [Result.bind_eq_ok_iff] at h
      obtain ⟨response, hresponse, others, hothers, h⟩ := h
      cases h
      exact .cons ⟨rfl, hresponse⟩ (ih hothers)
    | scalar s => exact ih h
    | list items => exact ih h

-- Each validator of a response is built from what is declared for one.
theorem exists_of_buildResponses {declared : Fields} {responses : List (String × ResponseValidator)}
    (h : buildResponses responseEngine declared = .ok responses) :
    ∀ p ∈ responses, ∃ fields,
      ParameterValidator.ofHeaders (fieldOf fields "headers") responseEngine .response =
        .ok p.2.header ∧
      BodyValidator.build (fieldOf fields "content") false responseEngine .response =
        .ok p.2.body := by
  intro p hp
  obtain ⟨entry, -, -, hresponse⟩ := Related.exists_of_mem_right (forall₂_of_buildResponses h) hp
  simp only [buildResponse, Result.bind_eq_ok_iff] at hresponse
  obtain ⟨header, hheader, body, hbody, heq⟩ := hresponse
  rw [← Except.ok.inj heq]
  exact ⟨entry.2, hheader, hbody⟩

-- The same parts are built into one operation only.
theorem Built.unique {op' : Operation}
    (h : Built path method fields requestEngine responseEngine ofPath op)
    (h' : Built path method fields requestEngine responseEngine ofPath op') : op = op' := by
  rcases op with ⟨path, method, id, pathP, queryP, headerP, cookieP, body, responses⟩
  rcases op' with ⟨path', method', id', pathP', queryP', headerP', cookieP', body', responses'⟩
  have hids : id = id' := h.id_eq.trans h'.id_eq.symm
  have hpaths : path = path' := h.path_eq.trans h'.path_eq.symm
  have hmethods : method = method' := h.method_eq.trans h'.method_eq.symm
  have hpathPs := Except.ok.inj (h.pathParameters.symm.trans h'.pathParameters)
  have hqueryPs := Except.ok.inj (h.queryParameters.symm.trans h'.queryParameters)
  have hheaderPs := Except.ok.inj (h.headerParameters.symm.trans h'.headerParameters)
  have hcookiePs := Except.ok.inj (h.cookieParameters.symm.trans h'.cookieParameters)
  have hbodies := Except.ok.inj (h.requestBody.symm.trans h'.requestBody)
  have hresponses := Except.ok.inj (h.responses.symm.trans h'.responses)
  simp only at hpathPs hqueryPs hheaderPs hcookiePs hbodies hresponses
  rw [hpaths, hmethods, hids, hpathPs, hqueryPs, hheaderPs, hcookiePs, hbodies, hresponses]

end ApiContract.Operation
