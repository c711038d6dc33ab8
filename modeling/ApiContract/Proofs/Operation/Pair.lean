import ApiContract.Proofs.Operation.Axis
import ApiContract.Proofs.Related
import ApiContract.Proofs.Schema.Pair

/-!
# Two operations side by side

An operation that is built over two engines, one of which follows the other, is built into two
operations that differ in their checks only. Related checks stand in the same places, so the two
operations ask the same questions and carry over any relation between the answers.
-/

namespace ApiContract

variable {R : Check → Check → Prop} {S : (α : Type) → Except Failure α → Except Failure α → Prop}
  {engine other : Engine (Except Failure)} {direction : Direction}

/-! ## Parameters -/

namespace ParameterValidator

/-- Validators that differ in their checks only, and these are related. -/
structure Related (R : Check → Check → Prop) (p q : ParameterValidator) : Prop where
  location_eq : p.location = q.location
  caseInsensitive_eq : p.caseInsensitive = q.caseInsensitive
  errorKind_eq : p.errorKind = q.errorKind
  schema_eq : p.schema = q.schema
  unit : p.unit.Related R q.unit

theorem follows_build (h : engine.Follows R other) (location : String) (naming : Parameter.Naming)
    (kind : ErrorKind) (parameters : List Value) :
    Result.Follows (Related R) (build location naming kind parameters engine direction)
      (build location naming kind parameters other direction) := by
  unfold build
  refine .bind_same fun schema => ?_
  refine (SchemaUnit.follows_compile h direction schema).bind fun unit unit' hunit => ?_
  exact .ok ⟨rfl, rfl, rfl, rfl, hunit⟩

theorem follows_ofHeaders (h : engine.Follows R other) (headers : Value) :
    Result.Follows (Related R) (ofHeaders headers engine direction)
      (ofHeaders headers other direction) := by
  unfold ofHeaders
  exact .bind_same fun parameters => follows_build h _ _ _ parameters

theorem Related.eq {p q : ParameterValidator} (h : p.Related Eq q) : p = q := by
  rcases p with ⟨location, caseInsensitive, kind, schema, unit⟩
  rcases q with ⟨location', caseInsensitive', kind', schema', unit'⟩
  rcases h with ⟨rfl, rfl, rfl, rfl, hunit⟩
  rw [show unit = unit' from hunit.eq]

/-! ### The values of a location -/

-- Related validators put the same object to their checks.
theorem Related.carry {p q : ParameterValidator} (h : p.Related R q) (hS : Carries R S)
    (values : Value) : S PUnit (p.validate values) (q.validate values) := by
  rw [validate_eq, validate_eq, h.errorKind_eq, h.location_eq, h.caseInsensitive_eq]
  refine hS.bind_matches (untyped_candidate values).matches_self ?_
  rintro fields _ rfl
  exact hS.answer h.unit.check (rejection q.errorKind q.location []) _

end ParameterValidator

/-! ## Bodies -/

namespace BodyValidator

/-- Units under the same pattern whose checks are related. -/
def RelatedUnit (R : Check → Check → Prop) (p q : String × SchemaUnit) : Prop :=
  p.1 = q.1 ∧ p.2.Related R q.2

/-- Validators that differ in their checks only, and these are related. -/
structure Related (R : Check → Check → Prop) (b c : BodyValidator) : Prop where
  required_eq : b.required = c.required
  direction_eq : b.direction = c.direction
  patterns_eq : b.patterns = c.patterns
  units : List.Forall₂ (RelatedUnit R) b.units c.units

-- A unit is found under a pattern for both or for neither.
theorem rel_lookup {units others : List (String × SchemaUnit)}
    (h : List.Forall₂ (RelatedUnit R) units others) (pattern : String) :
    Option.Rel (SchemaUnit.Related R) (units.lookup pattern) (others.lookup pattern) :=
  Related.rel_listLookup (R := fun _ => SchemaUnit.Related R) h pattern

-- Both compile the first schema of each pattern.
theorem follows_compileUnits (h : engine.Follows R other) (entries : List (String × Value))
    {done done' : List (String × SchemaUnit)} (hdone : List.Forall₂ (RelatedUnit R) done done') :
    Result.Follows (List.Forall₂ (RelatedUnit R)) (compileUnits engine direction done entries)
      (compileUnits other direction done' entries) := by
  induction entries generalizing done done' with
  | nil => exact .ok hdone
  | cons entry rest ih =>
    rcases entry with ⟨pattern, schema⟩
    unfold compileUnits
    dsimp only
    rw [← Related.isSome_eq (rel_lookup hdone (MediaType.normalize pattern))]
    split
    · exact ih hdone
    · refine (SchemaUnit.follows_compile h direction schema).bind fun unit unit' hunit => ?_
      exact ih (List.rel_append hdone (.cons ⟨rfl, hunit⟩ .nil))

theorem follows_build (h : engine.Follows R other) (content : Value) (required : Bool) :
    Result.Follows (Related R) (build content required engine direction)
      (build content required other direction) := by
  unfold build
  refine .bind_same fun declared => ?_
  refine (follows_compileUnits h declared .nil).bind fun units units' hunits => ?_
  exact .ok ⟨rfl, rfl, rfl, hunits⟩

theorem Related.eq {b c : BodyValidator} (h : b.Related Eq c) : b = c := by
  rcases b with ⟨required, direction, patterns, units⟩
  rcases c with ⟨required', direction', patterns', units'⟩
  rcases h with ⟨rfl, rfl, rfl, hunits⟩
  have heq : List.Forall₂ Eq units units' := hunits.imp fun p q hpq => Prod.ext hpq.1 hpq.2.eq
  rw [show units = units' from List.forall₂_eq_eq_eq ▸ heq]

/-! ### The unit that serves a content type -/

section

variable {b c : BodyValidator} (h : b.Related R c)
include h

theorem Related.rel_unitFor? (pattern : String) :
    Option.Rel (RelatedUnit R) (b.unitFor? pattern) (c.unitFor? pattern) :=
  ApiContract.Related.rel_map (rel_lookup h.units pattern) fun _ _ hunit => ⟨rfl, hunit⟩

theorem Related.rel_defaultUnit? :
    Option.Rel (RelatedUnit R) b.defaultUnit? c.defaultUnit? := by
  have hwildcard := h.rel_unitFor? MediaType.wildcard
  have hunits := h.units
  unfold defaultUnit?
  generalize b.unitFor? MediaType.wildcard = o at hwildcard
  generalize c.unitFor? MediaType.wildcard = o' at hwildcard
  generalize b.units = units at hunits
  generalize c.units = units' at hunits
  cases hwildcard with
  | some hunit => exact .some hunit
  | none =>
    cases hunits with
    | nil => exact .none
    | cons hunit hrest =>
      cases hrest with
      | nil => exact .some hunit
      | cons => exact .none

theorem Related.rel_resolve (contentType : Option String) :
    Option.Rel (RelatedUnit R) (b.resolve contentType) (c.resolve contentType) := by
  unfold resolve
  cases contentType with
  | none => exact h.rel_defaultUnit?
  | some s =>
    dsimp only
    split
    · exact h.rel_defaultUnit?
    · exact ApiContract.Related.rel_or (h.rel_unitFor? _)
        (ApiContract.Related.rel_or (h.rel_unitFor? _) (h.rel_unitFor? _))

-- Related validators put the same body to their checks.
theorem Related.carry (hS : Carries R S) (body : Value) (contentType : Option String) :
    S PUnit (b.validate body contentType) (c.validate body contentType) := by
  unfold validate
  split
  · rw [h.required_eq]
    split
    · rw [show b.missing = c.missing by
        simp only [missing, errorKind, location, h.direction_eq]]
      exact hS.plain (.contract rfl)
    · exact hS.ok _
  · rw [validatePresent_eq, validatePresent_eq]
    have hresolve := h.rel_resolve contentType
    generalize b.resolve contentType = o at hresolve
    generalize c.resolve contentType = o' at hresolve
    cases hresolve with
    | none =>
      rw [show b.unsupported contentType = c.unsupported contentType by
        simp only [unsupported, errorKind, location, h.direction_eq]]
      exact hS.plain (.contract rfl)
    | some hunit =>
      rw [h.direction_eq]
      exact hS.answer hunit.2.check (rejection c.direction []) _

end

end BodyValidator

/-! ## Operations -/

/-- Validators of a response that differ in their checks only, and these are related. -/
structure ResponseValidator.Related (R : Check → Check → Prop) (v w : ResponseValidator) :
    Prop where
  header : v.header.Related R w.header
  body : v.body.Related R w.body

namespace Operation

/-- Responses under the same status whose checks are related. -/
def RelatedResponse (R : Check → Check → Prop) (p q : String × ResponseValidator) : Prop :=
  p.1 = q.1 ∧ p.2.Related R q.2

/-- Operations that differ in their checks only: those of requests are related in one way, those of
responses in another. -/
structure Related (R T : Check → Check → Prop) (op op' : Operation) : Prop where
  path_eq : op.path = op'.path
  method_eq : op.method = op'.method
  id_eq : op.id = op'.id
  pathParameters : op.pathParameters.Related R op'.pathParameters
  queryParameters : op.queryParameters.Related R op'.queryParameters
  headerParameters : op.headerParameters.Related R op'.headerParameters
  cookieParameters : op.cookieParameters.Related R op'.cookieParameters
  requestBody : Option.Rel (BodyValidator.Related R) op.requestBody op'.requestBody
  responses : List.Forall₂ (RelatedResponse T) op.responses op'.responses

variable {T : Check → Check → Prop} {responseEngine responseOther : Engine (Except Failure)}

theorem follows_buildRequestBody (h : engine.Follows R other) (declared : Option Value) :
    Result.Follows (Option.Rel (BodyValidator.Related R)) (buildRequestBody engine declared)
      (buildRequestBody other declared) := by
  unfold buildRequestBody
  split
  · refine (BodyValidator.follows_build h _ _).bind fun b c hbc => ?_
    exact .ok (.some hbc)
  · exact .ok .none

theorem follows_buildResponses (h : engine.Follows R other) (declared : Fields) :
    Result.Follows (List.Forall₂ (RelatedResponse R)) (buildResponses engine declared)
      (buildResponses other declared) := by
  induction declared with
  | nil => exact .ok .nil
  | cons entry rest ih =>
    rcases entry with ⟨status, v⟩
    cases v with
    | object fields =>
      have hresponse : Result.Follows (ResponseValidator.Related R) (buildResponse engine fields)
          (buildResponse other fields) := by
        unfold buildResponse
        refine (ParameterValidator.follows_ofHeaders h _).bind fun header header' hheader => ?_
        refine (BodyValidator.follows_build h _ _).bind fun body body' hbody => ?_
        exact .ok ⟨hheader, hbody⟩
      unfold buildResponses
      refine hresponse.bind fun v w hvw => ?_
      refine ih.bind fun others others' hothers => ?_
      exact .ok (.cons ⟨rfl, hvw⟩ hothers)
    | scalar s => exact ih
    | list items => exact ih

-- An operation that one pair of engines builds, a pair that follows it builds too.
theorem follows_build (h : engine.Follows R other) (hresponse : responseEngine.Follows T responseOther)
    (path method : String) (fields : Fields) (ofPath : Value) :
    Result.Follows (Related R T) (build path method fields engine responseEngine ofPath)
      (build path method fields other responseOther ofPath) := by
  unfold build
  refine (ParameterValidator.follows_build h _ _ _ _).bind fun path path' hpath => ?_
  refine (ParameterValidator.follows_build h _ _ _ _).bind fun query query' hquery => ?_
  refine (ParameterValidator.follows_build h _ _ _ _).bind fun header header' hheader => ?_
  refine (ParameterValidator.follows_build h _ _ _ _).bind fun cookie cookie' hcookie => ?_
  refine (follows_buildRequestBody h _).bind fun body body' hbody => ?_
  refine (follows_buildResponses hresponse _).bind fun responses responses' hresponses => ?_
  exact .ok ⟨rfl, rfl, rfl, hpath, hquery, hheader, hcookie, hbody, hresponses⟩

theorem Related.eq {op op' : Operation} (h : op.Related Eq Eq op') : op = op' := by
  rcases op with ⟨path, method, id, pathP, queryP, headerP, cookieP, body, responses⟩
  rcases op' with ⟨path', method', id', pathP', queryP', headerP', cookieP', body', responses'⟩
  rcases h with ⟨rfl, rfl, rfl, hpath, hquery, hheader, hcookie, hbody, hresponses⟩
  have hbodies : body = body' := by
    cases hbody with
    | none => rfl
    | some hbc => rw [hbc.eq]
  have heq : List.Forall₂ Eq responses responses' := by
    refine hresponses.imp fun p q hpq => Prod.ext hpq.1 ?_
    rcases p with ⟨_, header, body⟩
    rcases q with ⟨_, header', body'⟩
    rw [show header = header' from hpq.2.header.eq, show body = body' from hpq.2.body.eq]
  rw [show pathP = pathP' from hpath.eq, show queryP = queryP' from hquery.eq,
    show headerP = headerP' from hheader.eq, show cookieP = cookieP' from hcookie.eq, hbodies,
    show responses = responses' from List.forall₂_eq_eq_eq ▸ heq]

/-! ### Requests -/

variable {op op' : Operation}

-- Each axis of a request carries over what is made of its answers.
theorem Related.carry_requestAnswer (h : op.Related R T op') (hS : Carries R S) (request : Fields)
    (axis : RequestAxis) :
    S PUnit (op.requestAnswer request axis) (op'.requestAnswer request axis) := by
  cases axis with
  | path => exact h.pathParameters.carry hS _
  | query => exact h.queryParameters.carry hS _
  | header => exact h.headerParameters.carry hS _
  | cookie => exact h.cookieParameters.carry hS _
  | body =>
    have hbody := h.requestBody
    simp only [requestAnswer, validateRequestBody]
    generalize op.requestBody = o at hbody
    generalize op'.requestBody = o' at hbody
    cases hbody with
    | none => exact hS.ok _
    | some hbc =>
      refine hS.bind_matches (MediaType.untyped_ofHeaders _).matches_self ?_
      rintro contentType _ rfl
      exact hbc.carry hS _ contentType

theorem Related.carry_validateRequest (h : op.Related R T op') (hS : Carries R S)
    (request : Fields) (lookedUp : Option String) :
    S (Option String) (op.validateRequest request lookedUp)
      (op'.validateRequest request lookedUp) := by
  rw [validateRequest_eq, validateRequest_eq]
  refine hS.bind (hS.forM fun axis _ => h.carry_requestAnswer hS request axis) fun _ => ?_
  rw [show op.reportedId request lookedUp = op'.reportedId request lookedUp by
    simp only [reportedId, h.id_eq]]
  exact hS.ok _

/-! ### Responses -/

-- The status selects related responses, or none.
theorem Related.matches_selectResponse (h : op.Related R T op') (status : String) :
    Result.Matches ContractError.SamePlain (RelatedResponse T) (op.selectResponse status)
      (op'.selectResponse status) := by
  have hresponse : ∀ key, Option.Rel (ResponseValidator.Related T) (op.response? key)
      (op'.response? key) := fun key =>
    ApiContract.Related.rel_listLookup (R := fun _ => ResponseValidator.Related T)
      (List.rel_reverse h.responses) key
  have hfound : ∀ keys : List String, Option.Rel (RelatedResponse T)
      (keys.findSome? fun key => (op.response? key).map (key, ·))
      (keys.findSome? fun key => (op'.response? key).map (key, ·)) := by
    intro keys
    induction keys with
    | nil => exact .none
    | cons key rest ih =>
      rw [List.findSome?_cons, List.findSome?_cons]
      have hkey := hresponse key
      generalize op.response? key = o at hkey
      generalize op'.response? key = o' at hkey
      cases hkey with
      | none => exact ih
      | some hvw => exact .some ⟨rfl, hvw⟩
  unfold selectResponse
  have hselected := hfound (Status.candidates status)
  generalize (Status.candidates status).findSome? _ = o at hselected
  generalize (Status.candidates status).findSome? _ = o' at hselected
  cases hselected with
  | none => exact .error (.refl rfl)
  | some hpq => exact .ok hpq

theorem Related.carry_validateResponse (h : op.Related R T op') (hS : Carries T S)
    (status response : Value) :
    S ValidatedResponse (op.validateResponse status response)
      (op'.validateResponse status response) := by
  unfold validateResponse
  have hselected : Result.Matches Failure.SamePlain (RelatedResponse T)
      ((op.selectResponse (Status.normalize status)).mapError Failure.contract)
      ((op'.selectResponse (Status.normalize status)).mapError Failure.contract) :=
    (h.matches_selectResponse _).mapError fun _ _ he => he.contract
  refine hS.bind_matches hselected ?_
  rintro ⟨key, v⟩ ⟨_, w⟩ ⟨rfl, hvw⟩
  dsimp only
  split
  · refine hS.bind (hvw.header.carry hS _) fun _ => ?_
    refine hS.bind_matches (MediaType.untyped_ofHeaders _).matches_self ?_
    rintro contentType _ rfl
    refine hS.bind (hvw.body.carry hS _ contentType) fun _ => ?_
    rw [h.id_eq]
    exact hS.ok _
  · exact hS.plain (.fault _)

end Operation

end ApiContract
