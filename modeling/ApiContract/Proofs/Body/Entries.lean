import ApiContract.Proofs.Body.Validator
import ApiContract.Proofs.Related

/-!
# The entries of a content map

Of the entries of a content map that have one normalized pattern the first is compiled; the entries
after it are passed over. So there is one unit for each normalized pattern, in the order in which the
patterns are first declared.
-/

namespace ApiContract

/-- The fields of an object; other values have none. -/
def Value.fields : Value → Fields
  | .object fields => fields
  | _ => []

/-- The elements of a list whose key no element before them has. -/
def firstOfEach {α : Type} (key : α → String) : List α → List α
  | [] => []
  | a :: rest => a :: (firstOfEach key rest).filter fun b => key b != key a

-- A falsy value in the place of an object stands for none.
theorem eq_nil_of_falsy {α : Type} {v : Value} {xs : List α}
    (h : (if v.truthy then stop .wrongShape else .ok []) = .ok xs) : [] = xs := by
  split at h
  · cases h
  · exact Except.ok.inj h

section

variable {α : Type} {key : α → String}

-- The first element with a key is among them.
theorem find?_firstOfEach (k : String) (xs : List α) :
    (firstOfEach key xs).find? (key · == k) = xs.find? (key · == k) := by
  induction xs with
  | nil => rfl
  | cons a rest ih =>
    rw [firstOfEach, List.find?_cons, List.find?_cons]
    cases hk : key a == k with
    | true => rfl
    | false =>
      -- No element with the key is dropped for the sake of the first one.
      have hkept : ∀ b, ((key b != key a) = true ∧ (key b == k) = true) ↔ (key b == k) = true := by
        intro b
        refine and_iff_right_of_imp fun hb => ?_
        rw [eq_of_beq hb, bne, Bool.beq_comm, hk]
        rfl
      simp only [List.find?_filter, hkept, Bool.decide_eq_true]
      exact ih

-- Where no two elements have one key, all of them are first.
theorem firstOfEach_of_nodup {xs : List α} (h : (xs.map key).Nodup) : firstOfEach key xs = xs := by
  induction xs with
  | nil => rfl
  | cons a rest ih =>
    rw [List.map_cons, List.nodup_cons] at h
    rw [firstOfEach, ih h.2, List.filter_eq_self.2]
    intro b hb
    have hne : key b ≠ key a := fun heq => h.1 (heq ▸ List.mem_map_of_mem hb)
    simpa using hne

end

namespace BodyValidator

/-! ## Declared entries -/

/-- The declared schema of a media type object, or the empty one when there is none or when it is
neither an object nor a truth value. -/
def declaredSchema (media : Value) : Value :=
  ((media.member? "schema").filter Engine.isSchema).getD (.object [])

/-- The entries of a content map under texts, with their schemas. -/
def declaredEntries (content : Value) : List (String × Value) :=
  content.fields.filterMap fun
    | (.str pattern, media) => some (pattern, declaredSchema media)
    | _ => none

theorem mediaSchema_eq (media : Value) : mediaSchema media = declaredSchema media := by
  unfold mediaSchema declaredSchema
  cases media.member? "schema" with
  | none => rfl
  | some schema => cases hschema : Engine.isSchema schema <;> simp [Option.filter, hschema]

theorem declaredEntries_of_entries {content : Value} {declared : List (String × Value)}
    (h : entries content = .ok declared) : declaredEntries content = declared := by
  cases content with
  | object fields =>
    rw [← Except.ok.inj h]
    refine List.filterMap_congr fun f _ => ?_
    obtain ⟨key, media⟩ := f
    cases key with
    | str pattern => exact congrArg (fun schema => some (pattern, schema)) (mediaSchema_eq media).symm
    | _ => rfl
  | scalar s => exact eq_nil_of_falsy h
  | list items => exact eq_nil_of_falsy h

/-! ## Entries to be compiled -/

/-- The entries whose normalized pattern is not among those that have a unit, the first of each
pattern. -/
def pending (done : List String) (declared : List (String × Value)) : List (String × Value) :=
  (firstOfEach (fun entry => MediaType.normalize entry.1) declared).filter fun entry =>
    !done.contains (MediaType.normalize entry.1)

section

variable {done : List String} {rest : List (String × Value)} {pattern : String} {schema : Value}

@[simp] theorem pending_nil_left (declared : List (String × Value)) :
    pending [] declared = firstOfEach (fun entry => MediaType.normalize entry.1) declared := by
  simp [pending]

-- What has a unit is passed over.
theorem pending_cons_of_mem (h : MediaType.normalize pattern ∈ done) :
    pending done ((pattern, schema) :: rest) = pending done rest := by
  rw [pending, firstOfEach, List.filter_cons_of_neg (by simpa using h), List.filter_filter]
  refine List.filter_congr fun other _ => ?_
  by_cases hother : MediaType.normalize other.1 ∈ done
  · simp [hother]
  · have hne : MediaType.normalize other.1 ≠ MediaType.normalize pattern :=
      fun heq => hother (by rwa [heq])
    simpa [hother] using hne

-- What has none is next.
theorem pending_cons_of_not_mem (h : MediaType.normalize pattern ∉ done) :
    pending done ((pattern, schema) :: rest) =
      (pattern, schema) :: pending (done ++ [MediaType.normalize pattern]) rest := by
  rw [pending, firstOfEach, List.filter_cons_of_pos (by simpa using h), List.filter_filter, pending,
    List.cons_inj_right]
  refine List.filter_congr fun other _ => ?_
  by_cases heq : MediaType.normalize other.1 = MediaType.normalize pattern
  · simp [heq]
  · simp [heq, bne, beq_eq_false_iff_ne.2 heq]

end

-- There is a unit under the keys of the units.
theorem isSome_lookup_iff {units : List (String × SchemaUnit)} {pattern : String} :
    (units.lookup pattern).isSome = true ↔ pattern ∈ units.map (·.1) := by
  induction units with
  | nil => simp
  | cons unit rest ih =>
    rw [List.lookup_cons, List.map_cons, List.mem_cons]
    by_cases h : pattern = unit.1
    · simp [h]
    · rw [beq_eq_false_iff_ne.2 h, ih, or_iff_right h]

/-! ## Compiled entries -/

/-- The unit is compiled from the entry's schema and stands under its normalized pattern. -/
def IsUnitOf (engine : Engine (Except Failure)) (direction : Direction) (entry : String × Value)
    (unit : String × SchemaUnit) : Prop :=
  unit.1 = MediaType.normalize entry.1 ∧
    SchemaUnit.compile engine direction entry.2 = .ok unit.2

variable {engine : Engine (Except Failure)} {direction : Direction}

-- The units that are compiled are those of the pending entries, in their order.
theorem units_of_compileUnits {done units : List (String × SchemaUnit)}
    {declared : List (String × Value)}
    (h : compileUnits engine direction done declared = .ok units) :
    ∃ more, units = done ++ more ∧
      List.Forall₂ (IsUnitOf engine direction) (pending (done.map (·.1)) declared) more := by
  induction declared generalizing done with
  | nil =>
    rcases Except.ok.inj h with rfl
    exact ⟨[], (List.append_nil done).symm, .nil⟩
  | cons entry rest ih =>
    obtain ⟨pattern, schema⟩ := entry
    unfold compileUnits at h
    dsimp only at h
    split at h
    · rename_i hdone
      rw [pending_cons_of_mem (isSome_lookup_iff.1 hdone)]
      exact ih h
    · rename_i hnew
      obtain ⟨unit, hunit, h⟩ := Result.bind_eq_ok_iff.1 h
      obtain ⟨more, rfl, hmore⟩ := ih h
      refine ⟨(MediaType.normalize pattern, unit) :: more, List.append_assoc .., ?_⟩
      rw [pending_cons_of_not_mem (mt isSome_lookup_iff.2 hnew)]
      rw [List.map_append] at hmore
      exact .cons ⟨rfl, hunit⟩ hmore

-- Nothing but the schemas of the entries can keep the units from being compiled.
theorem exists_compileUnits {declared : List (String × Value)}
    (h : ∀ entry ∈ declared, ∃ unit, SchemaUnit.compile engine direction entry.2 = .ok unit)
    (done : List (String × SchemaUnit)) :
    ∃ units, compileUnits engine direction done declared = .ok units := by
  induction declared generalizing done with
  | nil => exact ⟨done, rfl⟩
  | cons entry rest ih =>
    have ih := ih fun other hother => h other (List.mem_cons_of_mem entry hother)
    obtain ⟨pattern, schema⟩ := entry
    unfold compileUnits
    dsimp only
    split
    · exact ih done
    · obtain ⟨unit, hunit⟩ := h (pattern, schema) List.mem_cons_self
      rw [hunit]
      exact ih _

/-- The validator keeps the patterns as they are declared, and has a unit for the first entry of each
normalized pattern. -/
structure OfEntries (engine : Engine (Except Failure)) (direction : Direction) (content : Value)
    (b : BodyValidator) : Prop where
  patterns_eq : b.patterns = (declaredEntries content).map (·.1)
  units : List.Forall₂ (IsUnitOf engine direction)
    (firstOfEach (fun entry => MediaType.normalize entry.1) (declaredEntries content)) b.units

theorem ofEntries_of_build {content : Value} {required : Bool} {b : BodyValidator}
    (h : build content required engine direction = .ok b) : OfEntries engine direction content b := by
  simp only [build, Result.ofExcept_eq, Result.bind_eq_ok_iff] at h
  obtain ⟨declared, hdeclared, units, hunits, h⟩ := h
  rcases Except.ok.inj h with rfl
  obtain ⟨more, rfl, hmore⟩ := units_of_compileUnits hunits
  rw [List.map_nil, pending_nil_left, ← declaredEntries_of_entries hdeclared] at hmore
  exact ⟨by rw [declaredEntries_of_entries hdeclared], hmore⟩

-- The content types are the texts among the keys, in order.
theorem OfEntries.contentTypes_eq {content : Value} {b : BodyValidator}
    (h : OfEntries engine direction content b) :
    b.contentTypes = content.fields.filterMap fun field => (Value.scalar field.1).string? := by
  rw [contentTypes, h.patterns_eq, declaredEntries, List.map_filterMap]
  refine List.filterMap_congr fun field _ => ?_
  obtain ⟨key, media⟩ := field
  cases key <;> rfl

end BodyValidator

end ApiContract
