import ApiContract.Proofs.Schema.Inward
import ApiContract.Proofs.Schema.Prepared
import ApiContract.Proofs.Schema.Renaming
import Mathlib.Data.List.Basic

/-!
# Preparing renamed schemas

A renamed schema has the problems of the schema, and where the flags hide the same properties, it is
prepared as the schema is, with the result renamed. Preparing brings in no keys.
-/

namespace ApiContract.Renaming

variable {ρ : Renaming} {τ : ρ.Comparison}

/-! ## From one direction to another -/

/-- The renaming leads from one direction to another, for schemas whose keys satisfy a condition: the
same properties are hidden, a flag is allowed where it was and told as it was, and there are no
references. -/
structure Comparison.Carries (τ : ρ.Comparison) (p : Scalar → Prop) (d d' : Direction) : Prop where
  flagged : ∀ s, (∀ k ∈ Schema.keys s, p k) →
    Schema.isFlagged (Visibility.hiddenIn d') (ρ.schema s) =
      Schema.isFlagged (Visibility.hiddenIn d) s
  allowed : ∀ flag : Visibility, p (.str flag.keyword) →
    ((ρ.flag flag).allowedIn = d' ↔ flag.allowedIn = d)
  told : ∀ flag : Visibility, p (.str flag.keyword) →
    τ.after.flag (ρ.flag flag) = τ.before.flag flag ∧ τ.after.direction d' = τ.before.direction d
  noReference : ∀ k, p k → NoReference k

/-- Is the key neither that of a reference nor a flag? -/
def NoFlag (k : Scalar) : Prop := NoReference k ∧ ∀ flag : Visibility, k ≠ .str flag.keyword

-- With the flags, the directions change places.
theorem mirrored_carries (d : Direction) :
    Comparison.mirrored.Carries NoReference d d.opposite := by
  have hinjective : Function.Injective mirror.flag := by
    intro flag flag' h
    cases flag <;> cases flag' <;> first | rfl | cases h
  have hhidden : Visibility.hiddenIn d.opposite = mirror.flag (Visibility.hiddenIn d) := by
    cases d <;> rfl
  constructor
  case flagged =>
    intro s _
    cases s with
    | scalar s => rw [schema_scalar]; rfl
    | list items => rw [schema_list]; rfl
    | object fields =>
      rw [schema_object, Schema.isFlagged, Schema.isFlagged, Value.member?, Value.member?, hhidden,
        lookup_flag hinjective]
  case allowed =>
    intro flag _
    cases flag <;> cases d <;> decide
  case told => exact fun flag _ => ⟨rfl, rfl⟩
  case noReference => exact fun k h => h

-- Without flags, any direction is as good as the other.
theorem plain_carries (d d' : Direction) : Comparison.plain.Carries NoFlag d d' := by
  have hflagged : ∀ (flag : Visibility) (s : Value), (∀ k ∈ Schema.keys s, NoFlag k) →
      Schema.isFlagged flag s = false := by
    intro flag s hkeys
    cases s with
    | scalar s => rfl
    | list items => rfl
    | object fields =>
      rw [Schema.isFlagged, Value.member?,
        Schema.lookup_eq_none_of_keys hkeys fun h => h.2 flag rfl]
      rfl
  constructor
  case flagged =>
    intro s hkeys
    rw [schema_identity, hflagged _ s hkeys, hflagged _ s hkeys]
  case allowed => exact fun flag h => absurd rfl (h.2 flag)
  case told => exact fun flag h => absurd rfl (h.2 flag)
  case noReference => exact fun k h => h.1

-- The direction may stay as it is.
theorem plain_carries_self {p : Scalar → Prop} (d : Direction) (hp : ∀ k, p k → NoReference k) :
    Comparison.plain.Carries p d d := by
  constructor
  case flagged =>
    intro s _
    rw [schema_identity]
  case allowed => exact fun flag _ => Iff.rfl
  case told => exact fun flag _ => ⟨rfl, rfl⟩
  case noReference => exact hp

section

open Schema

variable {p : Scalar → Prop} {d d' : Direction}

theorem under_eq_map (place : Place) : ρ.under place = place.map ρ.schema := by
  funext v
  cases v with
  | scalar s => cases place <;> simp only [under_scalar, Place.map, schema_scalar]
  | list items => cases place <;> simp only [under, Place.map, schemas_eq_map]
  | object fields => cases place <;> simp only [under, Place.map, schema_object, members_eq_map]

-- Flags are renamed in the schemas inside a schema too.
theorem inward (ρ : Renaming) : Inward ρ.schema ρ.fields := by
  have hflag : ∀ name ∈ placeNames, ∀ flag : Visibility, name ≠ flag.keyword := by decide
  refine ⟨schema_scalar, schema_list, schema_object, fun fields name hname => ?_⟩
  rw [lookup_fields (hflag name hname), under_eq_map]

-- A renamed schema hides the properties that it hid.
theorem Comparison.Carries.hiddenNames_schema (h : τ.Carries p d d') {v : Value}
    (hkeys : ∀ k ∈ keys v, p k) :
    hiddenNames (Visibility.hiddenIn d') (ρ.schema v) =
      hiddenNames (Visibility.hiddenIn d) v := by
  refine ρ.inward.hiddenNames_eq v fun members hmembers f hf => ?_
  cases v with
  | scalar s => cases hmembers
  | list items => cases hmembers
  | object fields =>
    exact h.flagged f.2 (of_mem_keysOfMembers (of_lookup_keysOfFields hkeys hmembers) hf)

theorem Comparison.Carries.hiddenAt_fields (h : τ.Carries p d d') (inherited : List String)
    {fields : Fields} (hkeys : ∀ k ∈ keysOfFields fields, p k) :
    hiddenAt (Visibility.hiddenIn d') inherited (ρ.fields fields) =
      hiddenAt (Visibility.hiddenIn d) inherited fields := by
  refine ρ.inward.hiddenAt_eq inherited (h.hiddenNames_schema hkeys) fun branches hallOf v hv => ?_
  exact h.hiddenNames_schema (of_mem_keysOfItems (of_lookup_keysOfFields hkeys hallOf) hv)

mutual
-- A renamed schema is prepared as the schema is, with the result renamed.
theorem Comparison.Carries.prepare_schema (h : τ.Carries p d d') (inherited : List String) :
    ∀ v : Value, (∀ k ∈ keys v, p k) → prepare (Visibility.hiddenIn d') inherited (ρ.schema v) =
      (prepare (Visibility.hiddenIn d) inherited v).map ρ.schema
  | .scalar s, _ => by simp only [schema_scalar, prepare, Except.map]
  | .list items, _ => by simp only [schema_list, prepare, Except.map]
  | .object fields, hkeys => by
    simp only [schema_object, prepare, h.hiddenAt_fields inherited hkeys,
      h.prepareFields_fields _ fields hkeys, Result.map_bind, Result.bind_map, Result.map_pure]

theorem Comparison.Carries.prepareFields_fields (h : τ.Carries p d d') (hidden : List String) :
    ∀ fields : Fields, (∀ k ∈ keysOfFields fields, p k) →
      prepareFields (Visibility.hiddenIn d') hidden (ρ.fields fields) =
        (prepareFields (Visibility.hiddenIn d) hidden fields).map ρ.fields
  | [], _ => by simp only [Renaming.fields, prepareFields, Except.map]
  | (key, v) :: rest, hkeys => by
    simp only [keysOfFields, List.forall_mem_cons, List.forall_mem_append] at hkeys
    have hkey : ρ.key key = .str "discriminator" ↔ key = .str "discriminator" :=
      key_eq_str_iff (by decide)
    have hfield := h.prepareField_under hidden key v (of_mem_keysUnder_wide hkeys.2.1)
    have hrest := h.prepareFields_fields hidden rest hkeys.2.2
    simp only [Renaming.fields, prepareFields, hkey, hfield, hrest]
    split
    · rfl
    · simp only [Result.map_bind, Result.bind_map, Result.map_pure, Renaming.fields]

theorem Comparison.Carries.prepareField_under (h : τ.Carries p d d') (hidden : List String)
    (key : Scalar) : ∀ v : Value, (∀ k ∈ keysUnder (Place.ofKey key) v, p k) →
      prepareField (Visibility.hiddenIn d') hidden (ρ.key key) (ρ.under (Place.ofKey key) v) =
        (prepareField (Visibility.hiddenIn d) hidden key v).map (ρ.under (Place.ofKey key))
  | .scalar s, _ => by simp only [under_scalar, prepareField, Except.map]
  | .list items, hkeys => by
    have hrequired : ρ.key key = .str "required" ↔ key = .str "required" :=
      key_eq_str_iff (by decide)
    have hallOf : ρ.key key = .str "allOf" ↔ key = .str "allOf" := key_eq_str_iff (by decide)
    by_cases hreq : key = .str "required"
    · have hplace : Place.ofKey key = .data := by rw [hreq]; rfl
      simp only [hplace, prepareField, under_data, if_pos (hrequired.2 hreq),
        if_pos hreq, Result.map_bind, Result.map_pure]
    · by_cases hall : key = .str "allOf"
      · have hplace : Place.ofKey key = .schemaList := by rw [hall]; rfl
        rw [hplace] at hkeys
        simp only [hplace, prepareField, under, if_neg (mt hrequired.1 hreq), if_neg hreq,
          if_pos (hallOf.2 hall), if_pos hall, h.prepareItems_schemas hidden items hkeys,
          Result.map_bind, Result.bind_map, Result.map_pure]
      · have hprepare : ∀ flag items, prepareField flag hidden (ρ.key key) (.list items) =
            prepareField flag hidden key (.list items) := by
          intro flag items
          rw [prepareField_list hreq hall,
            prepareField_list (mt hrequired.1 hreq) (mt hallOf.1 hall), place_key]
        cases hplace : Place.ofKey key with
        | schemaMap | data =>
          simp only [under, hprepare, prepareField_list hreq hall, hplace, Except.map]
        | schema | schemaList =>
          rw [hplace] at hkeys
          simp only [under, hprepare, prepareField_list hreq hall, hplace,
            h.prepareItems_schemas [] items hkeys, Result.map_bind, Result.bind_map,
            Result.map_pure]
  | .object fields, hkeys => by
    cases hplace : Place.ofKey key with
    | schemaMap =>
      rw [hplace] at hkeys
      simp only [under, prepareField, place_key, hplace, h.prepareMembers_members fields hkeys,
        Result.map_bind, Result.bind_map, Result.map_pure]
    | schema =>
      rw [hplace] at hkeys
      simp only [under, prepareField, place_key, hplace, h.hiddenAt_fields [] hkeys,
        h.prepareFields_fields _ fields hkeys, Result.map_bind, Result.bind_map, Result.map_pure]
    | schemaList | data => simp only [under, prepareField, place_key, hplace, Except.map]

theorem Comparison.Carries.prepareItems_schemas (h : τ.Carries p d d') (inherited : List String) :
    ∀ items : List Value, (∀ k ∈ keysOfItems items, p k) →
      prepareItems (Visibility.hiddenIn d') inherited (ρ.schemas items) =
        (prepareItems (Visibility.hiddenIn d) inherited items).map ρ.schemas
  | [], _ => by simp only [schemas, prepareItems, Except.map]
  | v :: rest, hkeys => by
    simp only [keysOfItems, List.forall_mem_append] at hkeys
    simp only [schemas, prepareItems, h.prepare_schema inherited v hkeys.1,
      h.prepareItems_schemas inherited rest hkeys.2, Result.map_bind, Result.bind_map,
      Result.map_pure]

theorem Comparison.Carries.prepareMembers_members (h : τ.Carries p d d') :
    ∀ members : Fields, (∀ k ∈ keysOfMembers members, p k) →
      prepareMembers (Visibility.hiddenIn d') (ρ.members members) =
        (prepareMembers (Visibility.hiddenIn d) members).map ρ.members
  | [], _ => by simp only [Renaming.members, prepareMembers, Except.map]
  | (key, v) :: rest, hkeys => by
    simp only [keysOfMembers, List.forall_mem_append] at hkeys
    simp only [Renaming.members, prepareMembers, h.prepare_schema [] v hkeys.1,
      h.prepareMembers_members rest hkeys.2, Result.map_bind, Result.bind_map, Result.map_pure]
end

-- Where only the drafts find schemas, preparing leaves them alone.
theorem of_mem_keysUnder_prepareField {flag : Visibility} {hidden : List String} {key : Scalar}
    {v w : Value} (hw : prepareField flag hidden key v = .ok w)
    (hv : ∀ k ∈ keysUnder (Place.wide key) v, p k)
    (hfield : ∀ k ∈ keysUnder (Place.ofKey key) w, p k) :
    ∀ k ∈ keysUnder (Place.wide key) w, p k := by
  by_cases hplace : Place.ofKey key = .data
  · by_cases hrequired : key = .str "required"
    · rw [hrequired, show Place.wide (.str "required") = .data from rfl, keysUnder_data]
      exact nofun
    · rw [prepareField_of_data hplace hrequired] at hw
      rwa [← Except.ok.inj hw]
  · rwa [Place.wide_eq_ofKey hplace]

mutual
-- Preparing brings in no keys, so what holds of the keys of a schema holds of the prepared one's.
theorem of_mem_keys_prepare {flag : Visibility} : ∀ (v : Value) {inherited : List String}
    {w : Value}, prepare flag inherited v = .ok w → (∀ k ∈ keys v, p k) → ∀ k ∈ keys w, p k
  | .scalar s, _, w, hw, hkeys => by
    simp only [prepare, Except.ok.injEq] at hw
    rwa [← hw]
  | .list items, _, w, hw, hkeys => by
    simp only [prepare, Except.ok.injEq] at hw
    rwa [← hw]
  | .object fields, _, w, hw, hkeys => by
    obtain ⟨kept, rfl, hkept⟩ := prepare_object_eq_ok hw
    exact of_mem_keys_prepareFields fields hkept hkeys

theorem of_mem_keys_prepareFields {flag : Visibility} : ∀ (fields : Fields)
    {hidden : List String} {kept : Fields}, prepareFields flag hidden fields = .ok kept →
      (∀ k ∈ keysOfFields fields, p k) → ∀ k ∈ keysOfFields kept, p k
  | [], _, kept, hkept, _ => by
    simp only [prepareFields, Except.ok.injEq] at hkept
    rw [← hkept]
    exact nofun
  | (key, v) :: rest, _, kept, hkept, hkeys => by
    simp only [keysOfFields, List.forall_mem_cons, List.forall_mem_append] at hkeys
    unfold prepareFields at hkept
    split at hkept
    · exact of_mem_keys_prepareFields rest hkept hkeys.2.2
    · simp only [Result.bind_eq_ok_iff] at hkept
      obtain ⟨w, hw, rest', hrest, h⟩ := hkept
      obtain rfl := Except.ok.inj h
      have hfield : ∀ k ∈ keysUnder (Place.ofKey key) w, p k :=
        of_mem_keys_prepareField v hw (of_mem_keysUnder_wide hkeys.2.1)
      simp only [keysOfFields, List.forall_mem_cons, List.forall_mem_append]
      exact ⟨hkeys.1, of_mem_keysUnder_prepareField hw hkeys.2.1 hfield,
        of_mem_keys_prepareFields rest hrest hkeys.2.2⟩

theorem of_mem_keys_prepareField {flag : Visibility} : ∀ (v : Value) {hidden : List String}
    {key : Scalar} {w : Value}, prepareField flag hidden key v = .ok w →
      (∀ k ∈ keysUnder (Place.ofKey key) v, p k) → ∀ k ∈ keysUnder (Place.ofKey key) w, p k
  | .scalar s, _, _, w, hw, hkeys => by
    rw [prepareField_scalar, Except.ok.injEq] at hw
    rwa [← hw]
  | .list items, _, key, w, hw, hkeys => by
    by_cases hrequired : key = .str "required"
    · subst hrequired
      obtain ⟨kept, rfl, -⟩ := prepareField_required hw
      exact nofun
    · by_cases hallOf : key = .str "allOf"
      · subst hallOf
        obtain ⟨kept, rfl, hkept⟩ := prepareField_allOf hw
        exact of_mem_keys_prepareItems items hkept hkeys
      · rw [prepareField_list hrequired hallOf] at hw
        cases hplace : Place.ofKey key with
        | schemaMap | data =>
          simp only [hplace, Except.ok.injEq] at hw
          rw [← hw]
          exact nofun
        | schema | schemaList =>
          simp only [hplace, Result.bind_eq_ok_iff] at hw
          obtain ⟨kept, hkept, h⟩ := hw
          obtain rfl := Except.ok.inj h
          rw [hplace] at hkeys
          exact of_mem_keys_prepareItems items hkept hkeys
  | .object fields, _, key, w, hw, hkeys => by
    rw [prepareField] at hw
    cases hplace : Place.ofKey key with
    | schemaMap =>
      simp only [hplace, Result.bind_eq_ok_iff] at hw
      obtain ⟨kept, hkept, h⟩ := hw
      obtain rfl := Except.ok.inj h
      rw [hplace] at hkeys
      exact of_mem_keys_prepareMembers fields hkept hkeys
    | schema =>
      simp only [hplace, Result.bind_eq_ok_iff] at hw
      obtain ⟨kept, hkept, h⟩ := hw
      obtain rfl := Except.ok.inj h
      rw [hplace] at hkeys
      exact of_mem_keys_prepareFields fields hkept hkeys
    | schemaList | data =>
      simp only [hplace, Except.ok.injEq] at hw
      rw [← hw]
      exact nofun

theorem of_mem_keys_prepareItems {flag : Visibility} : ∀ (items : List Value)
    {inherited : List String} {kept : List Value}, prepareItems flag inherited items = .ok kept →
      (∀ k ∈ keysOfItems items, p k) → ∀ k ∈ keysOfItems kept, p k
  | [], _, kept, hkept, _ => by
    simp only [prepareItems, Except.ok.injEq] at hkept
    rw [← hkept]
    exact nofun
  | v :: rest, _, kept, hkept, hkeys => by
    simp only [keysOfItems, List.forall_mem_append] at hkeys
    simp only [prepareItems, Result.bind_eq_ok_iff] at hkept
    obtain ⟨w, hw, rest', hrest, h⟩ := hkept
    obtain rfl := Except.ok.inj h
    simp only [keysOfItems, List.forall_mem_append]
    exact ⟨of_mem_keys_prepare v hw hkeys.1, of_mem_keys_prepareItems rest hrest hkeys.2⟩

theorem of_mem_keys_prepareMembers {flag : Visibility} : ∀ (members : Fields) {kept : Fields},
    prepareMembers flag members = .ok kept →
      (∀ k ∈ keysOfMembers members, p k) → ∀ k ∈ keysOfMembers kept, p k
  | [], kept, hkept, _ => by
    simp only [prepareMembers, Except.ok.injEq] at hkept
    rw [← hkept]
    exact nofun
  | (key, v) :: rest, kept, hkept, hkeys => by
    simp only [keysOfMembers, List.forall_mem_append] at hkeys
    simp only [prepareMembers, Result.bind_eq_ok_iff] at hkept
    obtain ⟨w, hw, rest', hrest, h⟩ := hkept
    obtain rfl := Except.ok.inj h
    simp only [keysOfMembers, List.forall_mem_append]
    exact ⟨of_mem_keys_prepare v hw hkeys.1, of_mem_keys_prepareMembers rest hrest hkeys.2⟩
end

/-! ## Problems of a renamed schema -/

variable (dialect : Dialect) (pointer : String)

-- Either flag is known, and neither is a format.
theorem fieldProblems_field (f : Scalar × Value) :
    fieldProblems dialect pointer (ρ.field f) = fieldProblems dialect pointer f := by
  obtain ⟨k, v⟩ := f
  obtain ⟨flag, rfl⟩ | hk := flag_or_ne k
  · have hnone : ∀ (flag : Visibility) (v : Value),
        fieldProblems dialect pointer (.str flag.keyword, v) = [] := by
      intro flag v
      have hknown : knowsKeyword dialect flag.keyword = true := by
        cases flag <;> cases dialect <;> decide
      have hformat : flag.keyword ≠ "format" := by cases flag <;> decide
      rw [fieldProblems_of_ne_format dialect pointer hformat, hknown]
      simp
    rw [field, key_keyword, hnone, hnone]
  · rw [field, key_of_ne hk]
    refine fieldProblems_congr dialect pointer fun hformat => ?_
    rw [hformat, show Place.ofKey (.str "format") = .data from rfl, under_data]

-- A renamed schema has the problems of the schema.
theorem problemsWithin_schema (depth : Nat) (v : Value) :
    problemsWithin dialect depth pointer (ρ.schema v) = problemsWithin dialect depth pointer v := by
  refine ρ.inward.problemsWithin_eq dialect (fun pointer fields => ?_) depth pointer v
  rw [fields_eq_map, List.flatMap_map]
  simp only [fieldProblems_field]

theorem problems_schema (v : Value) : problems dialect (ρ.schema v) = problems dialect v := by
  rw [problems, problems, nodes_schema, problemsWithin_schema]

end

end ApiContract.Renaming
