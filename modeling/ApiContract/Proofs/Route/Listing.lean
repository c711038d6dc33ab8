import ApiContract.Proofs.Route.Operations
import Mathlib.Data.List.Pairwise

/-!
# The listing of an index

An index and its two lookups agree with the document: each declared operation is listed once and in
its place, is found at its own path under its method, and is the only one to be found by its id.
-/

namespace ApiContract

namespace DeclaredOperation

variable {document : Value} {template method : String} {d : DeclaredOperation}

-- An operation is declared where a path item has something under a supported method.
theorem mem_ofDocument_iff :
    (template, method) ∈ (ofDocument document).map (fun d => (d.template, d.method)) ↔
      method ∈ httpMethods ∧ ∃ item v, (.str template, .object item) ∈ declaredPaths document ∧
        Value.lookup item method = some v ∧ v.isNull = false := by
  rw [ofDocument, List.map_flatMap, List.mem_flatMap]
  constructor
  · rintro ⟨entry, hentry, hmem⟩
    obtain ⟨d, hd, heq⟩ := List.mem_map.1 hmem
    cases heq
    unfold ofEntry at hd
    split at hd
    · rename_i template item
      obtain ⟨method, hmethod, rfl⟩ := List.mem_map.1 hd
      rw [List.mem_filter, Operation.fieldOf] at hmethod
      refine ⟨hmethod.1, item, ?_⟩
      obtain ⟨v, hlookup⟩ : ∃ v, Value.lookup item method = some v := by
        cases hlookup : Value.lookup item method with
        | none => simp [hlookup, Value.isNull] at hmethod
        | some v => exact ⟨v, rfl⟩
      exact ⟨v, hentry, hlookup, by simpa [hlookup] using hmethod.2⟩
    · cases hd
  · rintro ⟨hmethod, item, v, hentry, hlookup, hv⟩
    have hfield : Operation.fieldOf item method = v := by
      rw [Operation.fieldOf, hlookup]
      rfl
    refine ⟨_, hentry, List.mem_map.2 ⟨⟨template, method, v, Operation.fieldOf item "parameters"⟩,
      List.mem_map.2 ⟨method, List.mem_filter.2 ⟨hmethod, ?_⟩, ?_⟩, rfl⟩⟩
    · simp [hfield, hv]
    · rw [hfield]

theorem id?_eq_some_iff {id : String} :
    d.id? = some id ↔ d.value.member? "operationId" = some (.str id) ∧ id ≠ "" := by
  rw [id?, Option.filter_eq_some_iff, Option.bind_eq_some_iff]
  constructor
  · rintro ⟨⟨v, hv, hid⟩, hne⟩
    rw [Value.string?_eq_some_iff.1 hid] at hv
    exact ⟨hv, by simpa using hne⟩
  · rintro ⟨hv, hne⟩
    exact ⟨⟨_, hv, rfl⟩, by simpa using hne⟩

end DeclaredOperation

namespace PathIndex

open DeclaredOperation

variable {requestEngine responseEngine : Engine (Except Failure)} {document : Value}
  {index : PathIndex} {op other : Operation} {id : String}

-- What is listed has been built, operation by operation.
theorem operations_of_build (h : build document requestEngine responseEngine = .ok index) :
    WellFormed document ∧
      List.Forall₂ (fun d op => d.build requestEngine responseEngine = .ok op)
        (ofDocument document) index.operations := by
  have hanswers : Answers requestEngine responseEngine operations (WellFormed document)
      (ofDocument document) (build document requestEngine responseEngine) := answers_build document
  rw [h] at hanswers
  cases hanswers with
  | built _ hwell operations => exact ⟨hwell, operations⟩

-- Each listed operation stands at the template and the method where it is declared.
theorem operations_in_place (h : build document requestEngine responseEngine = .ok index) :
    List.Forall₂ (fun d op => d.build requestEngine responseEngine = .ok op ∧
      op.path = d.template ∧ op.method = d.method) (ofDocument document) index.operations := by
  have hlower : ∀ d ∈ ofDocument document, Text.lower d.method = d.method :=
    fun d hd => lower_of_mem_httpMethods d.method (of_mem_ofDocument hd)
  have hbuilt := (List.forall₂_and_left _ _).2 ⟨hlower, (operations_of_build h).2⟩
  refine hbuilt.imp fun d op hd => ⟨hd.2, path_of_build hd.2, ?_⟩
  rw [method_of_build hd.2, hd.1]

theorem map_operations_of_build (h : build document requestEngine responseEngine = .ok index) :
    (ofDocument document).map (fun d => (d.template, d.method)) =
      index.operations.map (fun op => (op.path, op.method)) :=
  Related.map_eq (operations_in_place h) fun _ _ hd => Prod.ext hd.2.1.symm hd.2.2.symm

-- A listed operation is known by its path and method.
theorem eq_of_path_method (hkeyed : document.wellKeyed = true)
    (h : build document requestEngine responseEngine = .ok index) (hop : op ∈ index.operations)
    (hother : other ∈ index.operations) (hpath : other.path = op.path)
    (hmethod : other.method = op.method) : other = op := by
  have hnodup := nodup_ofDocument hkeyed
  rw [map_operations_of_build h] at hnodup
  exact List.inj_on_of_nodup_map hnodup hother hop (Prod.ext hpath hmethod)

-- A listed operation is known by its id, if it has one that is not empty.
theorem eq_of_namedId? (h : build document requestEngine responseEngine = .ok index)
    (hop : op ∈ index.operations) (hother : other ∈ index.operations)
    (hid : op.namedId? = some id) (hotherId : other.namedId? = some id) : other = op := by
  obtain ⟨hwell, hbuilt⟩ := operations_of_build h
  have hnodup := hwell.ids
  rw [← filterMap_namedId?_of_build hbuilt, List.Nodup, List.pairwise_filterMap] at hnodup
  by_contra hne
  have hsymmetric : Std.Symm fun a b : Operation =>
      ∀ i, a.namedId? = some i → ∀ j, b.namedId? = some j → i ≠ j :=
    ⟨fun a b hab i hi j hj heq => hab j hj i hi heq.symm⟩
  exact hnodup.forall hother hop hne id hotherId id hid rfl

/-! ## Lookups of listed operations -/

/-- A listed operation is found at its own template, whatever the case of the method. -/
theorem lookup_self (hkeyed : document.wellKeyed = true)
    (h : build document requestEngine responseEngine = .ok index) (hop : op ∈ index.operations)
    {method : String} (hmethod : Text.lower method = op.method) :
    index.lookup op.path method = .ok op := by
  have hholds := holds_of_build h
  obtain ⟨r, hr, hmem⟩ := List.mem_flatMap.1 hop
  have hroute : index.route? op.path = some r :=
    (hholds.route?_eq_some_iff hkeyed).2 ⟨hr, (hholds.path_eq r hr op hmem).symm⟩
  have hfound : r.operation? op.method = some op := by
    refine Related.find?_of_unique hmem (by simp) fun other hother hmethod => ?_
    have hpath : other.path = op.path :=
      (hholds.path_eq r hr other hother).trans (hholds.path_eq r hr op hmem).symm
    exact eq_of_path_method hkeyed h hop (List.mem_flatMap.2 ⟨r, hr, hother⟩) hpath
      (by simpa using hmethod)
  unfold lookup
  dsimp only
  rw [hmethod, hroute, Option.bind_some, hfound]

-- An id leads to the listed operation that has it.
theorem lookupId_eq_ok_iff (h : build document requestEngine responseEngine = .ok index) :
    index.lookupId id = .ok op ↔ op ∈ index.operations ∧ op.namedId? = some id := by
  unfold lookupId
  constructor
  · intro hok
    split at hok
    · rename_i hfind
      cases hok
      exact ⟨List.mem_of_find?_eq_some hfind, by simpa using List.find?_some hfind⟩
    · cases hok
  · rintro ⟨hop, hid⟩
    have hfind : index.operations.find? (·.namedId? == some id) = some op := by
      refine Related.find?_of_unique hop (by simp [hid]) fun other hother hotherId => ?_
      exact eq_of_namedId? h hop hother hid (by simpa using hotherId)
    rw [hfind]

-- An id leads to an operation exactly when one operation alone declares it.
theorem lookupId_succeeds_iff (hkeyed : document.wellKeyed = true)
    (h : build document requestEngine responseEngine = .ok index) :
    (∃ op, index.lookupId id = .ok op) ↔ ∃! d, d ∈ ofDocument document ∧ d.id? = some id := by
  simp only [lookupId_eq_ok_iff h]
  have hbuilt := operations_in_place h
  constructor
  · rintro ⟨op, hop, hid⟩
    obtain ⟨d, hd, hdop⟩ := Related.exists_of_mem_right hbuilt hop
    refine ⟨d, ⟨hd, namedId?_of_build hdop.1 ▸ hid⟩, ?_⟩
    rintro e ⟨he, heid⟩
    obtain ⟨other, hother, heother⟩ := Related.exists_of_mem_left hbuilt he
    obtain rfl := eq_of_namedId? h hop hother hid (namedId?_of_build heother.1 ▸ heid)
    -- The same operation is built from both, so they stand at one template and method.
    have htemplate : e.template = d.template := heother.2.1.symm.trans hdop.2.1
    have hmethod : e.method = d.method := heother.2.2.symm.trans hdop.2.2
    exact List.inj_on_of_nodup_map (nodup_ofDocument hkeyed) he hd (Prod.ext htemplate hmethod)
  · rintro ⟨d, ⟨hd, hid⟩, -⟩
    obtain ⟨op, hop, hdop⟩ := Related.exists_of_mem_left hbuilt hd
    exact ⟨op, hop, (namedId?_of_build hdop.1).trans hid⟩

-- The templates are the keys of the paths object.
theorem templates_of_build (h : build document requestEngine responseEngine = .ok index) :
    index.templates.map Scalar.str = (declaredPaths document).map (·.1) := by
  have hpaths : ∀ entry ∈ declaredPaths document, ∃ template item,
      entry = (.str template, .object item) ∧ template.startsWith "/" = true :=
    (operations_of_build h).1.items
  have htemplates : index.templates = (Declaration.ofDocument document).map (·.template) := by
    rw [← (holds_of_build h).declarations, List.map_map]
    rfl
  have hdeclarations : Declaration.ofDocument document =
      (declaredPaths document).filterMap Declaration.ofEntry? := by
    unfold Declaration.ofDocument declaredPaths
    cases document.member? "paths" with
    | none => rfl
    | some v => cases v <;> rfl
  rw [htemplates, hdeclarations]
  generalize declaredPaths document = paths at hpaths
  induction paths with
  | nil => rfl
  | cons entry rest ih =>
    obtain ⟨⟨template, item, rfl, -⟩, hrest⟩ := List.forall_mem_cons.1 hpaths
    have hentry : Declaration.ofEntry? (.str template, .object item) =
        some ⟨template, Declaration.methodsOf item⟩ := rfl
    rw [List.filterMap_cons_some hentry, List.map_cons, List.map_cons, List.map_cons, ih hrest]

/-! ## The index of a document -/

/-- The index and its lookups agree with what the document declares. -/
structure Lists (requestEngine responseEngine : Engine (Except Failure)) (index : PathIndex)
    (document : Value) : Prop where
  /-- The operations are what is declared, built one by one: path by path in the order of the
  document, and at each path in the order of methods. -/
  operations : List.Forall₂ (fun d op => d.build requestEngine responseEngine = .ok op ∧
      op.path = d.template ∧ op.method = d.method) (ofDocument document) index.operations
  /-- There is an operation where a path item has a value other than null under a method. -/
  declared : ∀ template method,
    (template, method) ∈ index.operations.map (fun op => (op.path, op.method)) ↔
      method ∈ httpMethods ∧ ∃ item v, (.str template, .object item) ∈ declaredPaths document ∧
        Value.lookup item method = some v ∧ v.isNull = false
  /-- There is no other one at the same place. -/
  once : (index.operations.map fun op => (op.path, op.method)).Nodup
  templates : index.templates.map Scalar.str = (declaredPaths document).map (·.1)
  lookup : ∀ op ∈ index.operations, ∀ method, Text.lower method = op.method →
    index.lookup op.path method = .ok op
  lookupId : ∀ id op, index.lookupId id = .ok op ↔
    op ∈ index.operations ∧ op.id = some id ∧ id ≠ ""
  lookupId_succeeds : ∀ id, (∃ op, index.lookupId id = .ok op) ↔ id ≠ "" ∧
    ∃! d, d ∈ ofDocument document ∧ d.value.member? "operationId" = some (.str id)

/-- The index that is built from a document lists each operation once, in the order of the document,
and both lookups lead back to it: by its own template in any letter case of the method, and by its
id, if that is not empty, which no other operation has. -/
theorem lists_of_build (hkeyed : document.wellKeyed = true)
    (h : build document requestEngine responseEngine = .ok index) :
    Lists requestEngine responseEngine index document := by
  have hplaces := map_operations_of_build h
  constructor
  case operations => exact operations_in_place h
  case declared =>
    intro template method
    rw [← hplaces, mem_ofDocument_iff]
  case once =>
    rw [← hplaces]
    exact nodup_ofDocument hkeyed
  case templates => exact templates_of_build h
  case lookup => exact fun op hop method => lookup_self hkeyed h hop
  case lookupId =>
    intro id op
    rw [lookupId_eq_ok_iff h, Operation.namedId?_eq_some_iff]
  case lookupId_succeeds =>
    intro id
    simp only [lookupId_succeeds_iff hkeyed h, id?_eq_some_iff]
    constructor
    · rintro ⟨d, ⟨hd, hid, hne⟩, honly⟩
      exact ⟨hne, d, ⟨hd, hid⟩, fun e he => honly e ⟨he.1, he.2, hne⟩⟩
    · rintro ⟨hne, d, ⟨hd, hid⟩, honly⟩
      exact ⟨d, ⟨hd, hid, hne⟩, fun e he => honly e ⟨he.1, he.2.1⟩⟩

/-- Two paths; one of the methods has nothing under it, and one of the ids is empty. -/
def petPaths : Value :=
  .object [(.str "paths", .object
    [(.str "/pets", .object
        [(.str "put", .null), (.str "post", .object [(.str "operationId", .str "")]),
          (.str "get", .object [(.str "operationId", .str "list")])]),
      (.str "/pets/\x7bid\x7d", .object
        [(.str "get", .object [(.str "operationId", .str "show")])])])]

-- Three operations are listed, and one of them is found by a method in upper case.
theorem lists_of_pet_paths : petPaths.wellKeyed = true ∧ ∃ index : PathIndex,
    build petPaths (Engine.silent (m := Except Failure)) (Engine.silent (m := Except Failure)) =
        .ok index ∧
      index.operations.length = 3 ∧ index.templates = ["/pets", "/pets/\x7bid\x7d"] ∧
      ∃ op ∈ index.operations, index.lookup "/pets" "GET" = .ok op := by
  refine ⟨by decide, ?_⟩
  obtain ⟨index, hbuild⟩ : ∃ index, build petPaths (Engine.silent (m := Except Failure))
      (Engine.silent (m := Except Failure)) = .ok index :=
    Result.exists_of_isOk (by decide +kernel)
  have h := lists_of_build (by decide) hbuild
  have htemplates : index.templates = ["/pets", "/pets/\x7bid\x7d"] :=
    List.map_injective_iff.2 (fun _ _ heq => Scalar.str.inj heq) h.templates
  obtain ⟨op, hop, heq⟩ := List.mem_map.1 ((h.declared "/pets" "get").2
    ⟨by decide, _, _, List.mem_cons_self, rfl, rfl⟩)
  obtain ⟨hpath, hmethod⟩ := Prod.mk.inj heq
  have hlookup := h.lookup op hop "GET" (by rw [hmethod]; decide)
  rw [hpath] at hlookup
  exact ⟨index, hbuild, h.operations.length_eq.symm, htemplates, op, hop, hlookup⟩

end PathIndex

end ApiContract
