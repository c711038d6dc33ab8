import ApiContract.Proofs.Related
import ApiContract.Proofs.Result
import ApiContract.Schema.Prepare

/-!
# Prepared schemas

What a prepared schema has in common with the one that it is made from. Both have the same fields in
the same order, discriminators aside, and what stands under a name in the one is prepared from what
stands there in the other; lists and objects of schemas correspond element by element. Names that
are required are the only other thing that can go.
-/

namespace ApiContract.Schema

variable {flag : Visibility} {inherited hidden : List String} {fields prepared : Fields}

/-! ## Lists and objects of schemas -/

-- Preparing a list prepares its elements.
theorem prepareItems_eq_ok {items prepared : List Value}
    (h : prepareItems flag inherited items = .ok prepared) :
    List.Forall₂ (fun v w => prepare flag inherited v = .ok w) items prepared := by
  induction items generalizing prepared with
  | nil =>
    rcases Except.ok.inj h with rfl
    exact .nil
  | cons v rest ih =>
    unfold prepareItems at h
    simp only [Result.bind_eq_ok_iff] at h
    rcases h with ⟨w, hw, rest', hrest, h⟩
    rcases Except.ok.inj h with rfl
    exact .cons hw (ih hrest)

-- Preparing an object of schemas prepares its members.
theorem prepareMembers_eq_ok {members prepared : Fields}
    (h : prepareMembers flag members = .ok prepared) :
    List.Forall₂ (fun f g => f.1 = g.1 ∧ prepare flag [] f.2 = .ok g.2) members prepared := by
  induction members generalizing prepared with
  | nil =>
    rcases Except.ok.inj h with rfl
    exact .nil
  | cons f rest ih =>
    unfold prepareMembers at h
    simp only [Result.bind_eq_ok_iff] at h
    rcases h with ⟨w, hw, rest', hrest, h⟩
    rcases Except.ok.inj h with rfl
    exact .cons ⟨rfl, hw⟩ (ih hrest)

/-! ## The fields of a schema -/

-- Preparing fields leaves out discriminators and prepares all others.
theorem prepareFields_eq_ok (h : prepareFields flag hidden fields = .ok prepared) :
    List.Forall₂ (fun f g => f.1 = g.1 ∧ prepareField flag hidden f.1 f.2 = .ok g.2)
      (fields.filter fun f => f.1 ≠ .str "discriminator") prepared := by
  induction fields generalizing prepared with
  | nil =>
    rcases Except.ok.inj h with rfl
    exact .nil
  | cons f rest ih =>
    rcases f with ⟨key, v⟩
    unfold prepareFields at h
    by_cases hkey : key = .str "discriminator"
    · rw [if_pos hkey] at h
      rw [List.filter_cons_of_neg (by simp [hkey])]
      exact ih h
    · rw [if_neg hkey] at h
      simp only [Result.bind_eq_ok_iff] at h
      rcases h with ⟨w, hw, rest', hrest, h⟩
      rcases Except.ok.inj h with rfl
      rw [List.filter_cons_of_pos (by simpa using hkey)]
      exact .cons ⟨rfl, hw⟩ (ih hrest)

-- Leaving out one name leaves what stands under the others.
theorem lookup_filter_of_ne {name dropped : String} (hne : name ≠ dropped) :
    Value.lookup (fields.filter fun f => f.1 ≠ .str dropped) name = Value.lookup fields name := by
  induction fields with
  | nil => rfl
  | cons f rest ih =>
    rcases f with ⟨key, v⟩
    unfold Value.lookup at ih ⊢
    by_cases hkey : key = .str dropped
    · have hother : (Scalar.str name == key) = false := by simpa [hkey] using hne
      rw [List.filter_cons_of_neg (by simp [hkey]), List.lookup_cons, hother]
      exact ih
    · rw [List.filter_cons_of_pos (by simpa using hkey), List.lookup_cons, List.lookup_cons, ih]

-- What stands under a name of a prepared schema is prepared from what stood there.
theorem rel_lookup_prepareFields {name : String}
    (h : prepareFields flag hidden fields = .ok prepared) (hname : name ≠ "discriminator") :
    Option.Rel (fun v w => prepareField flag hidden (.str name) v = .ok w)
      (Value.lookup fields name) (Value.lookup prepared name) := by
  have hrel := Related.rel_lookup (R := fun key v w => prepareField flag hidden key v = .ok w)
    (prepareFields_eq_ok h) name
  rwa [lookup_filter_of_ne hname] at hrel

-- A prepared object is an object of prepared fields.
theorem prepare_object_eq_ok {w : Value} (h : prepare flag inherited (.object fields) = .ok w) :
    ∃ prepared, w = .object prepared ∧
      prepareFields flag (hiddenAt flag inherited fields) fields = .ok prepared := by
  unfold prepare at h
  rcases Result.bind_eq_ok_iff.1 h with ⟨prepared, hprepared, h⟩
  rcases Except.ok.inj h with rfl
  exact ⟨prepared, rfl, hprepared⟩

-- Preparing leaves everything but objects alone.
theorem prepare_cases {schema w : Value} (h : prepare flag inherited schema = .ok w) :
    (schema.isObject = false ∧ w = schema) ∨ ∃ fields kept, schema = .object fields ∧
      w = .object kept ∧ prepareFields flag (hiddenAt flag inherited fields) fields = .ok kept := by
  cases schema with
  | object fields =>
    rcases prepare_object_eq_ok h with ⟨kept, rfl, hfields⟩
    exact Or.inr ⟨fields, kept, rfl, rfl, hfields⟩
  | _ =>
    simp only [prepare, Except.ok.injEq] at h
    exact Or.inl ⟨rfl, h.symm⟩

section

variable {name : String} {v : Value}

-- A field that is kept is found again under its name.
theorem lookup_of_prepared (h : prepareFields flag hidden fields = .ok prepared)
    (hname : name ≠ "discriminator") (hv : Value.lookup fields name = some v) :
    ∃ w, Value.lookup prepared name = some w ∧
      prepareField flag hidden (.str name) v = .ok w := by
  have hrel := rel_lookup_prepareFields h hname
  rw [hv] at hrel
  generalize Value.lookup prepared name = o at hrel
  cases hrel with
  | some hw => exact ⟨_, rfl, hw⟩

theorem lookup_eq_none_of_prepared (h : prepareFields flag hidden fields = .ok prepared)
    (hname : name ≠ "discriminator") (hv : Value.lookup fields name = none) :
    Value.lookup prepared name = none := by
  have hrel := rel_lookup_prepareFields h hname
  rw [hv] at hrel
  generalize Value.lookup prepared name = o at hrel
  cases hrel with
  | none => rfl

end

/-! ## What stands under a keyword -/

-- Branches inherit what is hidden where they stand.
theorem prepareField_allOf {branches : List Value} {w : Value}
    (h : prepareField flag hidden (.str "allOf") (.list branches) = .ok w) :
    ∃ prepared, w = .list prepared ∧ prepareItems flag hidden branches = .ok prepared := by
  rw [prepareField, if_neg (by decide), if_pos rfl] at h
  rcases Result.bind_eq_ok_iff.1 h with ⟨prepared, hprepared, h⟩
  exact ⟨prepared, (Except.ok.inj h).symm, hprepared⟩

-- The schemas of properties inherit nothing.
theorem prepareField_properties {properties : Fields} {w : Value}
    (h : prepareField flag hidden (.str "properties") (.object properties) = .ok w) :
    ∃ prepared, w = .object prepared ∧ prepareMembers flag properties = .ok prepared := by
  rw [prepareField, show Place.ofKey (.str "properties") = .schemaMap from rfl] at h
  rcases Result.bind_eq_ok_iff.1 h with ⟨prepared, hprepared, h⟩
  exact ⟨prepared, (Except.ok.inj h).symm, hprepared⟩

-- A schema by itself under a keyword inherits nothing.
theorem prepareField_items {items : Fields} :
    prepareField flag hidden (.str "items") (.object items) = prepare flag [] (.object items) := by
  rw [prepareField, show Place.ofKey (.str "items") = .schema from rfl, prepare]

theorem prepareField_scalar {key : Scalar} {s : Scalar} :
    prepareField flag hidden key (.scalar s) = .ok (.scalar s) := by
  simp only [prepareField]

-- What becomes of a list depends on the place, two keys aside.
theorem prepareField_list {key : Scalar} {items : List Value}
    (hrequired : key ≠ .str "required") (hallOf : key ≠ .str "allOf") :
    prepareField flag hidden key (.list items) =
      match Place.ofKey key with
      | .schemaList | .schema => do return .list (← prepareItems flag [] items)
      | _ => .ok (.list items) := by
  cases hplace : Place.ofKey key <;>
    simp only [prepareField, if_neg hrequired, if_neg hallOf, hplace]

-- Names are left out of a list only.
theorem prepareField_required {names : List Value} {w : Value}
    (h : prepareField flag hidden (.str "required") (.list names) = .ok w) :
    ∃ kept, w = .list kept ∧ visibleNames hidden names = .ok kept := by
  rw [prepareField, if_pos rfl] at h
  rcases Result.bind_eq_ok_iff.1 h with ⟨kept, hkept, h⟩
  exact ⟨kept, (Except.ok.inj h).symm, hkept⟩

-- What holds no schema is copied as it stands.
theorem prepareField_of_data {key : Scalar} {v : Value} (hplace : Place.ofKey key = .data)
    (hrequired : key ≠ .str "required") : prepareField flag hidden key v = .ok v := by
  have hallOf : key ≠ .str "allOf" := by
    rintro rfl
    cases hplace
  cases v with
  | scalar s => exact prepareField_scalar
  | list items => rw [prepareField, if_neg hrequired, if_neg hallOf, hplace]
  | object fields => rw [prepareField, hplace]

-- The draft that a schema declares is that of its prepared form.
theorem declared?_prepareFields
    (h : prepareFields flag hidden fields = .ok prepared) :
    Draft.declared? prepared = Draft.declared? fields := by
  have hkept : Value.lookup prepared "$schema" = Value.lookup fields "$schema" := by
    cases hv : Value.lookup fields "$schema" with
    | none => exact lookup_eq_none_of_prepared h (by decide) hv
    | some v =>
      obtain ⟨w, hw, hfield⟩ := lookup_of_prepared h (by decide) hv
      rw [prepareField_of_data rfl (by decide)] at hfield
      rw [hw, Except.ok.inj hfield]
  rw [Draft.declared?, Draft.declared?, hkept]

-- An object is copied as it stands where no object is expected.
theorem prepareField_object {key : Scalar} {members : Fields}
    (hmap : Place.ofKey key ≠ .schemaMap) (hschema : Place.ofKey key ≠ .schema) :
    prepareField flag hidden key (.object members) = .ok (.object members) := by
  rw [prepareField]
  split
  · contradiction
  · contradiction
  · rfl

end ApiContract.Schema
