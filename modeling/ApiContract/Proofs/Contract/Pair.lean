import ApiContract.Contract
import ApiContract.Proofs.Operation.Pair

/-!
# Two contracts side by side

What can be asked of a contract is a handful of calls: check a request or a response against the
operation that is found by path or by id. Two contracts of one document that differ in their checks
only find related operations for the same call, and fail to find one alike.
-/

namespace ApiContract

variable {R T : Check → Check → Prop}

/-! ## Calls -/

/-- A request to be checked, and how its operation is found. -/
inductive RequestCall
  /-- At a path, for the method that the request names. -/
  | named (path request : Value)
  | byPath (path method request : Value)
  | byId (id request : Value)

/-- A response to be checked, and how its operation is found. -/
inductive ResponseCall
  | byPath (path method status response : Value)
  | byId (id status response : Value)

namespace Contract

/-- What a contract answers to a request. -/
def answerRequest (c : Contract) : RequestCall → Except Failure (Option String)
  | .named path request => c.validateRequest path request
  | .byPath path method request => c.validateRequestByPath path method request
  | .byId id request => c.validateRequestById id request

/-- What a contract answers to a response. -/
def answerResponse (c : Contract) : ResponseCall → Except Failure Operation.ValidatedResponse
  | .byPath path method status response => c.validateResponse path method status response
  | .byId id status response => c.validateResponseById id status response

end Contract

/-! ## Related routes -/

namespace Operation.Related

variable {op op' : Operation}

theorem namedId?_eq (h : op.Related R T op') : op.namedId? = op'.namedId? := by
  rw [namedId?, namedId?, h.id_eq]

end Operation.Related

/-- Routes with the same template and related operations. -/
structure Route.Related (R T : Check → Check → Prop) (r r' : Route) : Prop where
  template_eq : r.template = r'.template
  operations : List.Forall₂ (Operation.Related R T) r.operations r'.operations

/-- Indices with related routes in the same order. -/
structure PathIndex.Related (R T : Check → Check → Prop) (index index' : PathIndex) : Prop where
  routes : List.Forall₂ (Route.Related R T) index.routes index'.routes

namespace Route.Related

theorem eq {r r' : Route} (h : r.Related Eq Eq r') : r = r' := by
  rcases r with ⟨template, ops⟩
  rcases r' with ⟨template', ops'⟩
  rcases h with ⟨rfl, hops⟩
  have heq : List.Forall₂ Eq ops ops' := hops.imp fun op op' hop => hop.eq
  rw [show ops = ops' from List.forall₂_eq_eq_eq ▸ heq]

variable {r r' : Route} (h : r.Related R T r')
include h

-- Under a method there is an operation for both or for neither.
theorem rel_operation? (method : String) :
    Option.Rel (Operation.Related R T) (r.operation? method) (r'.operation? method) := by
  refine ApiContract.Related.rel_find? h.operations fun op op' hop => ?_
  rw [hop.method_eq]

theorem declares_eq (method : String) : r.declares method = r'.declares method :=
  ApiContract.Related.isSome_eq (h.rel_operation? method)

end Route.Related

namespace PathIndex

variable {requestEngine requestOther responseEngine responseOther : Engine (Except Failure)}
  {index index' : PathIndex}

/-! ## Building over two pairs of engines -/

-- An id is taken in both lists of operations or in neither.
theorem rel_sameId? {op op' : Operation} {seen seen' : List Operation} (hop : op.Related R T op')
    (hseen : List.Forall₂ (Operation.Related R T) seen seen') :
    Option.Rel (Operation.Related R T) (sameId? op seen) (sameId? op' seen') := by
  unfold sameId?
  rw [hop.namedId?_eq]
  split
  · refine ApiContract.Related.rel_find? hseen fun op op' hop => ?_
    rw [hop.id_eq]
  · exact .none

section

variable (hrequest : requestEngine.Follows R requestOther)
  (hresponse : responseEngine.Follows T responseOther)
include hrequest hresponse

theorem follows_buildOperations (template : String) (item : Fields) (methods : List String)
    {seen seen' : List Operation} (hseen : List.Forall₂ (Operation.Related R T) seen seen') :
    Result.Follows (List.Forall₂ (Operation.Related R T))
      (buildOperations template item requestEngine responseEngine seen methods)
      (buildOperations template item requestOther responseOther seen' methods) := by
  induction methods generalizing seen seen' with
  | nil => exact .ok .nil
  | cons method rest ih =>
    unfold buildOperations
    split
    · exact ih hseen
    · exact ih hseen
    · refine (Operation.follows_build hrequest hresponse _ _ _ _).bind fun op op' hop => ?_
      have hid := rel_sameId? hop hseen
      generalize sameId? op seen = o at hid
      generalize sameId? op' seen' = o' at hid
      cases hid with
      | some => exact .error
      | none =>
        refine (ih (List.rel_append hseen (.cons hop .nil))).bind fun ops ops' hops => ?_
        exact .ok (.cons hop hops)
    · exact .error

theorem follows_buildRoutes (paths : Fields) {seen seen' : List Operation}
    (hseen : List.Forall₂ (Operation.Related R T) seen seen') :
    Result.Follows (List.Forall₂ (Route.Related R T))
      (buildRoutes requestEngine responseEngine seen paths)
      (buildRoutes requestOther responseOther seen' paths) := by
  induction paths generalizing seen seen' with
  | nil => exact .ok .nil
  | cons entry rest ih =>
    rcases entry with ⟨key, item⟩
    unfold buildRoutes
    split
    · rename_i template
      cases hslash : template.startsWith "/" with
      | false =>
        simp only [Bool.not_false, if_true]
        exact .error
      | true =>
        simp only [Bool.not_true, Bool.false_eq_true, if_false]
        split
        · refine (follows_buildOperations hrequest hresponse _ _ _ hseen).bind
            fun ops ops' hops => ?_
          refine (ih (List.rel_append hseen hops)).bind fun routes routes' hroutes => ?_
          exact .ok (.cons ⟨rfl, hops⟩ hroutes)
        · exact .error
    · exact .error

-- An index that one pair of engines builds, a pair that follows it builds too.
theorem follows_build (document : Value) :
    Result.Follows (Related R T) (build document requestEngine responseEngine)
      (build document requestOther responseOther) := by
  unfold build
  split
  · split
    · refine (follows_buildRoutes hrequest hresponse _ .nil).bind fun routes routes' hroutes => ?_
      exact .ok ⟨hroutes⟩
    · exact .error
  · exact .error

end

/-! ## Looking up in related indices -/

theorem untyped_methodOf (method : Value) : Untyped (methodOf method) := by
  unfold methodOf
  split
  · exact .ok _
  · exact Untyped.stop _

-- The number of literal segments is part of the template.
theorem mostLiteral_eq {routes routes' : List Route}
    (h : List.Forall₂ (Route.Related R T) routes routes') :
    mostLiteral routes = mostLiteral routes' := by
  have hcounts : routes.map (·.template.literalCount) = routes'.map (·.template.literalCount) :=
    ApiContract.Related.map_eq h fun r r' hr => by rw [hr.template_eq]
  rw [mostLiteral, mostLiteral, hcounts]

-- Routes are preferred for a method alike.
theorem rel_preferred {routes routes' : List Route}
    (h : List.Forall₂ (Route.Related R T) routes routes') (method : Option String) :
    List.Forall₂ (Route.Related R T) (preferred method routes) (preferred method routes') := by
  unfold preferred
  split
  · exact h
  · rename_i method
    have hdeclaring : List.Forall₂ (Route.Related R T)
        (routes.filter (·.declares (Text.lower method)))
        (routes'.filter (·.declares (Text.lower method))) :=
      ApiContract.Related.filter h fun r r' hr => hr.declares_eq _
    dsimp only
    rw [ApiContract.Related.isEmpty_eq hdeclaring]
    split
    · exact h
    · exact hdeclaring

namespace Related

variable (h : index.Related R T index')
include h

-- The best routes for a path are related, or a path is served by none for the same reason.
theorem matches_serve (path : String) (method : Option String) :
    Result.Matches ContractError.SamePlain (Route.Related R T) (index.serve path method)
      (index'.serve path method) := by
  have hcandidates : List.Forall₂ (Route.Related R T) (index.candidates path)
      (index'.candidates path) :=
    ApiContract.Related.filter h.routes fun r r' hr => by rw [hr.template_eq]
  have hpreferred := rel_preferred hcandidates method
  have htier : List.Forall₂ (Route.Related R T)
      (topTier (preferred method (index.candidates path)))
      (topTier (preferred method (index'.candidates path))) := by
    unfold topTier
    rw [mostLiteral_eq hpreferred]
    exact ApiContract.Related.filter hpreferred fun r r' hr => by rw [hr.template_eq]
  have htemplates : (topTier (preferred method (index.candidates path))).map (·.template.text) =
      (topTier (preferred method (index'.candidates path))).map (·.template.text) :=
    ApiContract.Related.map_eq htier fun r r' hr => by rw [hr.template_eq]
  unfold serve
  generalize topTier (preferred method (index.candidates path)) = tier at htier htemplates
  generalize topTier (preferred method (index'.candidates path)) = tier' at htier htemplates
  cases htier with
  | nil => exact .error (.refl rfl)
  | cons hr hrest =>
    cases hrest with
    | nil => exact .ok hr
    | cons hs hrest =>
      dsimp only
      rw [htemplates]
      exact .error (.refl rfl)

theorem matches_lookup (path method : String) :
    Result.Matches ContractError.SamePlain (Operation.Related R T) (index.lookup path method)
      (index'.lookup path method) := by
  have hroute : Option.Rel (Route.Related R T) (index.route? path) (index'.route? path) :=
    ApiContract.Related.rel_find? h.routes fun r r' hr => by rw [hr.template_eq]
  have hexact := ApiContract.Related.rel_bind hroute fun r r' hr =>
    hr.rel_operation? (Text.lower method)
  unfold lookup
  dsimp only
  generalize (index.route? path).bind _ = o at hexact
  generalize (index'.route? path).bind _ = o' at hexact
  cases hexact with
  | some hop => exact .ok hop
  | none =>
    refine (h.matches_serve path _).bind fun r r' hr => ?_
    have hop := hr.rel_operation? (Text.lower method)
    generalize r.operation? (Text.lower method) = o at hop
    generalize r'.operation? (Text.lower method) = o' at hop
    cases hop with
    | some hop => exact .ok hop
    | none => exact .error (.refl rfl)

theorem matches_lookupId (id : String) :
    Result.Matches ContractError.SamePlain (Operation.Related R T) (index.lookupId id)
      (index'.lookupId id) := by
  have hoperations : List.Forall₂ (Operation.Related R T) index.operations index'.operations :=
    List.rel_flatMap h.routes fun r r' hr => hr.operations
  have hfound : Option.Rel (Operation.Related R T)
      (index.operations.find? (·.namedId? == some id))
      (index'.operations.find? (·.namedId? == some id)) :=
    ApiContract.Related.rel_find? hoperations fun op op' hop => by rw [hop.namedId?_eq]
  unfold lookupId
  generalize index.operations.find? _ = o at hfound
  generalize index'.operations.find? _ = o' at hfound
  cases hfound with
  | some hop => exact .ok hop
  | none => exact .error (.refl rfl)

/-! ### Arguments of any shape -/

-- The text of a path does not depend on the checks.
theorem matches_pathOf (path : Value) :
    Result.Matches Failure.SamePlain Eq (index.pathOf path) (index'.pathOf path) := by
  unfold pathOf
  rw [ApiContract.Related.isEmpty_eq h.routes]
  split
  · exact .ok rfl
  · split
    · exact .ok rfl
    · exact .error (.fault _)

theorem matches_lookupValues (path method : Value) :
    Result.Matches Failure.SamePlain (Operation.Related R T) (index.lookupValues path method)
      (index'.lookupValues path method) := by
  have hlookup : ∀ path method, Result.Matches Failure.SamePlain (Operation.Related R T)
      ((index.lookup path method).mapError Failure.contract)
      ((index'.lookup path method).mapError Failure.contract) := fun path method =>
    (h.matches_lookup path method).mapError fun _ _ he => he.contract
  unfold lookupValues
  refine (untyped_methodOf method).matches_self.bind ?_
  rintro method _ rfl
  split
  · exact .error (.fault _)
  · exact .error (.fault _)
  · refine (h.matches_pathOf path).bind ?_
    rintro path _ rfl
    exact hlookup path method

theorem matches_lookupIdValue (id : Value) :
    Result.Matches Failure.SamePlain (Operation.Related R T) (index.lookupIdValue id)
      (index'.lookupIdValue id) := by
  unfold lookupIdValue
  split
  · exact (h.matches_lookupId _).mapError fun _ _ he => he.contract
  · exact .error ⟨rfl, .contract rfl⟩
  · exact .error (.fault _)

end Related

end PathIndex

/-! ## Contracts -/

namespace Contract

/-- Contracts that differ in their checks only: those of requests are related in one way, those of
responses in another. -/
structure Related (R T : Check → Check → Prop) (c c' : Contract) : Prop where
  version_eq : c.version = c'.version
  index : c.index.Related R T c'.index

theorem Related.eq {c c' : Contract} (h : c.Related Eq Eq c') : c = c' := by
  rcases c with ⟨version, ⟨routes⟩⟩
  rcases c' with ⟨version', ⟨routes'⟩⟩
  rcases h with ⟨rfl, ⟨hroutes⟩⟩
  have heq : List.Forall₂ Eq routes routes' := hroutes.imp fun r r' hr => hr.eq
  rw [show routes = routes' from List.forall₂_eq_eq_eq ▸ heq]

variable {c c' : Contract} {S : (α : Type) → Except Failure α → Except Failure α → Prop}

-- What is no object is no request.
theorem untyped_methodOfRequest (request : Value) : Untyped (methodOfRequest request) := by
  unfold methodOfRequest
  split
  · exact .ok _
  · exact Untyped.stop _

theorem carry_requestTo {op op' : Operation} (h : op.Related R T op') (hS : Carries R S)
    (request : Value) (lookedUp : Option String) :
    S (Option String) (requestTo op request lookedUp) (requestTo op' request lookedUp) := by
  unfold requestTo
  split
  · exact h.carry_validateRequest hS _ lookedUp
  · exact hS.plain (.fault _)

namespace Related

variable (h : c.Related R T c')
include h

theorem carry_validateRequestByPath (hS : Carries R S) (path method request : Value) :
    S (Option String) (c.validateRequestByPath path method request)
      (c'.validateRequestByPath path method request) :=
  hS.bind_matches (h.index.matches_lookupValues path method) fun _ _ hop =>
    carry_requestTo hop hS request none

/-- What is carried over by the checks of requests holds between the answers to every request. -/
theorem carry_answerRequest (hS : Carries R S) (call : RequestCall) :
    S (Option String) (c.answerRequest call) (c'.answerRequest call) := by
  cases call with
  | named path request =>
    refine hS.bind_matches (untyped_methodOfRequest request).matches_self ?_
    rintro method _ rfl
    exact h.carry_validateRequestByPath hS path _ request
  | byPath path method request => exact h.carry_validateRequestByPath hS path method request
  | byId id request =>
    refine hS.bind_matches (h.index.matches_lookupIdValue id) fun op op' hop => ?_
    exact carry_requestTo hop hS request id.string?

/-- What is carried over by the checks of responses holds between the answers to every response. -/
theorem carry_answerResponse (hS : Carries T S) (call : ResponseCall) :
    S Operation.ValidatedResponse (c.answerResponse call) (c'.answerResponse call) := by
  cases call with
  | byPath path method status response =>
    refine hS.bind_matches (h.index.matches_lookupValues path method) fun op op' hop => ?_
    exact hop.carry_validateResponse hS status _
  | byId id status response =>
    refine hS.bind_matches (h.index.matches_lookupIdValue id) fun op op' hop => ?_
    exact hop.carry_validateResponse hS status _

end Related

end Contract

end ApiContract
