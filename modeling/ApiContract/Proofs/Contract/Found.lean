import ApiContract.Proofs.Contract.Accepted
import ApiContract.Proofs.Contract.Local
import ApiContract.Proofs.Contract.Pair
import ApiContract.Proofs.Route.Listing

/-!
# The operation that a call is about

A call is answered in two steps: the operation that it is about is looked up, and the message is checked
against it. A lookup ends with an operation that is listed or with an error about the path, the method or
the id; what is listed has been built from its declaration.
-/

namespace ApiContract

/-! ## Answers of lookups -/

/-- The error says that a lookup leads nowhere: to no path or id, to no operation for the method, or to
several paths. -/
inductive ContractError.OfLookup (e : ContractError) : Prop
  | unknown (kind_eq : e.kind = .structuralLookup) (code_eq : e.code = 404)
  | undeclared (kind_eq : e.kind = .structuralLookup) (code_eq : e.code = 405)
  | ambiguous (kind_eq : e.kind = .ambiguousPath) (code_eq : e.code = 409)

/-- What a lookup may end with: one of the things to be found, or an error of lookups. A value of the
wrong shape stops it. -/
inductive LookupAnswer {α : Type} (known : List α) : Except Failure α → Prop
  | found {a : α} (mem : a ∈ known) : LookupAnswer known (.ok a)
  | refused {e : ContractError} (h : e.OfLookup) : LookupAnswer known (.error (.contract e))
  | stopped (fault : Fault) : LookupAnswer known (.error (.fault fault))

namespace LookupAnswer

variable {α β : Type} {known : List α} {x : Except Failure α}

theorem mem {a : α} (h : LookupAnswer known (.ok a)) : a ∈ known := by
  cases h with
  | found mem => exact mem

-- What is found leads to what is looked up in it.
theorem bind {others : List β} {f : α → Except Failure β} (h : LookupAnswer known x)
    (hstep : ∀ a ∈ known, LookupAnswer others (f a)) : LookupAnswer others (x >>= f) := by
  cases h with
  | found mem => exact hstep _ mem
  | refused he => exact .refused he
  | stopped fault => exact .stopped fault

-- What is looked up may have to be read first.
theorem after {y : Except Failure β} {f : β → Except Failure α} (hy : Untyped y)
    (h : ∀ b, LookupAnswer known (f b)) : LookupAnswer known (y >>= f) := by
  cases y with
  | ok b => exact h b
  | error failure =>
    obtain ⟨fault, rfl⟩ := hy failure rfl
    exact .stopped fault

end LookupAnswer

namespace PathIndex

variable {index : PathIndex}

-- The route that serves a path is one of those of the index.
theorem answer_serve (index : PathIndex) (path : String) (method : Option String) :
    LookupAnswer index.routes ((index.serve path method).mapError .contract) := by
  unfold serve
  split
  · exact .refused (.unknown rfl rfl)
  · rename_i r htier
    have htop : r ∈ topTier (preferred method (index.candidates path)) := by rw [htier]; simp
    have hpreferred : r ∈ preferred method (index.candidates path) := (mem_topTier.1 htop).1
    have hcandidate : r ∈ index.candidates path := (preferred_sublist _ _).subset hpreferred
    exact .found (List.mem_filter.1 hcandidate).1
  · exact .refused (.ambiguous rfl rfl)

theorem mem_operations {r : Route} {method : String} {op : Operation} (hr : r ∈ index.routes)
    (hop : r.operation? method = some op) : op ∈ index.operations :=
  List.mem_flatMap.2 ⟨r, hr, (operation?_eq_some hop).1⟩

theorem answer_lookup (index : PathIndex) (path method : String) :
    LookupAnswer index.operations ((index.lookup path method).mapError .contract) := by
  unfold lookup
  dsimp only
  split
  · rename_i op hexact
    obtain ⟨r, hr, hop⟩ := Option.bind_eq_some_iff.1 hexact
    exact .found (mem_operations (List.mem_of_find?_eq_some hr) hop)
  · rw [Result.mapError_bind]
    refine (index.answer_serve path _).bind fun r hr => ?_
    split
    · rename_i op hop
      exact .found (mem_operations hr hop)
    · exact .refused (.undeclared rfl rfl)

theorem untyped_pathOf (index : PathIndex) (path : Value) : Untyped (index.pathOf path) := by
  unfold pathOf
  split
  · exact .ok _
  · split
    · exact .ok _
    · exact Untyped.stop _

theorem lookupValues_str (index : PathIndex) (path method : String) :
    index.lookupValues (.str path) (.str method) = (index.lookup path method).mapError .contract :=
  rfl

theorem answer_lookupValues (index : PathIndex) (path method : Value) :
    LookupAnswer index.operations (index.lookupValues path method) := by
  unfold lookupValues
  refine .after (untyped_methodOf method) fun method => ?_
  split
  · exact .stopped _
  · exact .stopped _
  · exact .after (index.untyped_pathOf path) fun path => index.answer_lookup path method

theorem answer_lookupIdValue (index : PathIndex) (id : Value) :
    LookupAnswer index.operations (index.lookupIdValue id) := by
  unfold lookupIdValue lookupId
  split
  · split
    · rename_i op hfind
      exact .found (List.mem_of_find?_eq_some hfind)
    · exact .refused (.unknown rfl rfl)
  · exact .refused (.unknown rfl rfl)
  · exact .stopped _

theorem answer_serveValues (index : PathIndex) (path method : Value) :
    LookupAnswer index.templates (index.serveValues path method) := by
  have hserve : ∀ path method, LookupAnswer index.templates
      ((index.serve path method).mapError .contract >>= fun r => .ok r.template.text) :=
    fun path method => (index.answer_serve path method).bind fun r hr =>
      .found (List.mem_map_of_mem hr)
  unfold serveValues
  refine .after (index.untyped_pathOf path) fun path => ?_
  by_cases hempty : (index.candidates path).isEmpty = true
  · rw [if_pos hempty]
    exact .refused (.unknown rfl rfl)
  · rw [if_neg hempty]
    dsimp only
    split
    · exact hserve path none
    · exact .after (untyped_methodOf _) fun method => hserve path (some method)

end PathIndex

/-! ## The two steps of a call -/

namespace RequestCall

/-- The request that is to be checked. -/
def request : RequestCall → Value
  | .named _ request => request
  | .byPath _ _ request => request
  | .byId _ request => request

/-- The id that the operation is looked up by. -/
def lookedUp : RequestCall → Option String
  | .byId id _ => id.string?
  | _ => none

end RequestCall

namespace ResponseCall

/-- The status of the response that is to be checked. -/
def status : ResponseCall → Value
  | .byPath _ _ status _ => status
  | .byId _ status _ => status

/-- The response that is to be checked. -/
def response : ResponseCall → Value
  | .byPath _ _ _ response => Contract.responseOrEmpty response
  | .byId _ _ response => Contract.responseOrEmpty response

end ResponseCall

namespace Contract

variable {c : Contract}

/-- The operation that a request is about. -/
def requested (c : Contract) : RequestCall → Except Failure Operation
  | .named path request => do c.index.lookupValues path (.str (← methodOfRequest request))
  | .byPath path method _ => c.index.lookupValues path method
  | .byId id _ => c.index.lookupIdValue id

/-- The operation that a response is about. -/
def responded (c : Contract) : ResponseCall → Except Failure Operation
  | .byPath path method _ _ => c.index.lookupValues path method
  | .byId id _ _ => c.index.lookupIdValue id

-- A request is checked against the operation that it is about.
theorem answerRequest_eq (c : Contract) (call : RequestCall) : c.answerRequest call =
    c.requested call >>= fun op => requestTo op call.request call.lookedUp := by
  cases call with
  | named path request => exact (bind_assoc _ _ _).symm
  | byPath path method request => rfl
  | byId id request => rfl

-- A response is checked against the operation that it is about.
theorem answerResponse_eq (c : Contract) (call : ResponseCall) : c.answerResponse call =
    c.responded call >>= fun op => op.validateResponse call.status call.response := by
  cases call <;> rfl

theorem answer_requested (c : Contract) (call : RequestCall) :
    LookupAnswer c.index.operations (c.requested call) := by
  cases call with
  | named path request =>
    exact .after (untyped_methodOfRequest request) fun method =>
      c.index.answer_lookupValues path (.str method)
  | byPath path method request => exact c.index.answer_lookupValues path method
  | byId id request => exact c.index.answer_lookupIdValue id

theorem answer_responded (c : Contract) (call : ResponseCall) :
    LookupAnswer c.index.operations (c.responded call) := by
  cases call with
  | byPath path method status response => exact c.index.answer_lookupValues path method
  | byId id status response => exact c.index.answer_lookupIdValue id

/-! ## What is found -/

variable {engine : EngineOptions → Option String → Engine (Except Failure)}
  {options : ContractOptions} {document : Value} {op : Operation}

-- Whatever is listed has been built from what the document declares.
theorem built_of_mem (hc : build engine options document = .ok c) (hop : op ∈ c.index.operations) :
    ∃ path method fields ofPath, Operation.Built path method fields
      (engine options.request (statedVersion document))
      (engine options.response (statedVersion document)) ofPath op := by
  have hbuilt := (PathIndex.operations_of_build (index_of_build hc)).2
  obtain ⟨d, -, hd⟩ := Related.exists_of_mem_right hbuilt hop
  obtain ⟨fields, -, h⟩ := DeclaredOperation.built_of_build hd
  exact ⟨_, _, fields, _, h⟩

theorem built_of_requested (hc : build engine options document = .ok c) {call : RequestCall}
    (hop : c.requested call = .ok op) : ∃ path method fields ofPath, Operation.Built path method
      fields (engine options.request (statedVersion document))
      (engine options.response (statedVersion document)) ofPath op := by
  have hanswer := c.answer_requested call
  rw [hop] at hanswer
  exact built_of_mem hc hanswer.mem

theorem built_of_responded (hc : build engine options document = .ok c) {call : ResponseCall}
    (hop : c.responded call = .ok op) : ∃ path method fields ofPath, Operation.Built path method
      fields (engine options.request (statedVersion document))
      (engine options.response (statedVersion document)) ofPath op := by
  have hanswer := c.answer_responded call
  rw [hop] at hanswer
  exact built_of_mem hc hanswer.mem

end Contract

end ApiContract
