import ApiContract.Proofs.Schema.Renaming

/-!
# Schemas inside a schema

Which values inside a schema are schemas, and how to reach them. What stands under a key is put
together from the schemas in it and an outline, which has nothing in the place of each of them.
-/

namespace ApiContract

namespace Place

/-- The schemas that stand at a place. -/
def schemas (place : Place) (v : Value) : List Value :=
  match place, v with
  | .schema, .list items => items
  | .schema, v => [v]
  | .schemaList, .list items => items
  | .schemaMap, .object members => members.map (·.2)
  | _, _ => []

/-- What stands at a place, with nothing in the place of each schema. -/
def outline (place : Place) (v : Value) : Value :=
  match place, v with
  | .schema, .list items => .list (items.map fun _ => .null)
  | .schema, _ => .null
  | .schemaList, .list items => .list (items.map fun _ => .null)
  | .schemaMap, .object members => .object (members.map fun member => (member.1, .null))
  | _, v => v

variable {place : Place} {v w schema : Value}

theorem schemas_data (v : Value) : Place.data.schemas v = [] := by cases v <;> rfl

-- The schemas that a dialect finds under a key are those that the drafts find.
theorem schemas_wide {key : Scalar} (h : schema ∈ (Place.ofKey key).schemas v) :
    schema ∈ (Place.wide key).schemas v := by
  by_cases hplace : Place.ofKey key = .data
  · rw [hplace, schemas_data] at h
    cases h
  · rwa [wide_eq_ofKey hplace]

-- The outline and the schemas together are all of a value.
theorem eq_of_outline (houtline : place.outline v = place.outline w)
    (hschemas : place.schemas v = place.schemas w) : v = w := by
  cases place with
  | data => cases v <;> cases w <;> simp_all [outline]
  | schema => cases v <;> cases w <;> simp_all [outline, schemas]
  | schemaList => cases v <;> cases w <;> simp_all [outline, schemas]
  | schemaMap =>
    cases v with
    | object members =>
      cases w with
      | object others =>
        simp only [outline, Value.object.injEq] at houtline
        have hkeys := congrArg (List.map Prod.fst) houtline
        simp only [List.map_map, Function.comp_def] at hkeys
        exact congrArg _ ((List.zip_of_prod hkeys hschemas).trans (List.zip_of_prod rfl rfl).symm)
      | _ => simp_all [outline]
    | _ => cases w <;> simp_all [outline]

/-- What holds of a value, of the items of a list and of the members of an object holds of the schemas
that stand at a place. -/
theorem of_mem_schemas {P : Value → Prop} (h : schema ∈ place.schemas v) (hself : P v)
    (hitem : ∀ items, v = .list items → ∀ item ∈ items, P item)
    (hmember : ∀ members, v = .object members → ∀ f ∈ members, P f.2) : P schema := by
  unfold schemas at h
  split at h
  · exact hitem _ rfl _ h
  · rwa [List.mem_singleton.1 h]
  · exact hitem _ rfl _ h
  · obtain ⟨f, hmem, rfl⟩ := List.mem_map.1 h
    exact hmember _ rfl f hmem
  · cases h

-- Schemas are parts of what they stand in.
theorem nodes_le_of_mem_schemas (h : schema ∈ place.schemas v) : schema.nodes ≤ v.nodes := by
  refine of_mem_schemas (P := fun schema => schema.nodes ≤ v.nodes) h (Nat.le_refl _) ?_ ?_
  · rintro items rfl item hitem
    have := Value.nodes_le_nodesItems hitem
    simp only [Value.nodes]
    omega
  · rintro members rfl f hf
    have := Value.nodes_le_nodesFields hf
    simp only [Value.nodes]
    omega

theorem wellKeyed_of_mem_schemas (hv : v.wellKeyed = true) (h : schema ∈ place.schemas v) :
    schema.wellKeyed = true := by
  refine of_mem_schemas (P := fun schema => schema.wellKeyed = true) h hv ?_ ?_
  · rintro items rfl item hitem
    exact Value.wellKeyed_of_mem_list hv hitem
  · rintro members rfl f hf
    simp only [Value.wellKeyed, Bool.and_eq_true] at hv
    exact Value.wellKeyed_of_mem hv.2 hf

-- The keys of a schema are among those of what it stands in.
theorem keys_of_mem_schemas {p : Scalar → Prop} (hv : ∀ k ∈ Schema.keysUnder place v, p k)
    (h : schema ∈ place.schemas v) : ∀ k ∈ Schema.keys schema, p k := by
  cases place with
  | data =>
    rw [schemas_data] at h
    cases h
  | schema =>
    cases v with
    | list items => exact Schema.of_mem_keysOfItems hv h
    | _ =>
      rw [List.mem_singleton.1 h]
      exact hv
  | schemaList =>
    cases v with
    | list items => exact Schema.of_mem_keysOfItems hv h
    | _ => cases h
  | schemaMap =>
    cases v with
    | object members =>
      obtain ⟨f, hf, rfl⟩ := List.mem_map.1 h
      exact Schema.of_mem_keysOfMembers hv hf
    | _ => cases h

end Place

namespace Schema

/-! ## Sets of schemas -/

/-- All schemas that stand in the fields of a schema, for a draft too, belong to a set. -/
def AllInner (S : Value → Prop) (fields : Fields) : Prop :=
  ∀ f ∈ fields, ∀ s ∈ (Place.wide f.1).schemas f.2, S s

/-- A schema leads to schemas of a set only: those inside it belong to the set, and it has no
reference but, where that is allowed, the recursive one, which leads to the whole. -/
def LeadsInto (S : Value → Prop) (revisit : Prop) : Value → Prop
  | .object fields => AllInner S fields ∧
      ∀ f ∈ fields, Renaming.NoReference f.1 ∧ (f.1 = .str "$recursiveRef" → revisit)
  | _ => True

section

variable {S T : Value → Prop} {fields : Fields}

theorem AllInner.lookup {name : String} {v : Value} (h : AllInner S fields)
    (hv : Value.lookup fields name = some v) : ∀ s ∈ (Place.ofName name).schemas v, S s :=
  fun s hs => h _ (Value.mem_of_lookup hv) s (Place.schemas_wide hs)

theorem AllInner.imp (h : AllInner S fields) (hST : ∀ s, S s → T s) : AllInner T fields :=
  fun f hf s hs => hST s (h f hf s hs)

-- An inner schema has fewer nodes than the schema that it stands in.
theorem allInner_nodes (fields : Fields) :
    AllInner (fun s => s.nodes < (Value.object fields).nodes) fields := by
  rintro ⟨key, v⟩ hf s hs
  have hinside : s.nodes ≤ v.nodes := Place.nodes_le_of_mem_schemas hs
  have hfield : v.nodes ≤ Value.nodesFields fields := Value.nodes_le_nodesFields hf
  simp only [Value.nodes]
  omega

theorem AllInner.and (hS : AllInner S fields) (hT : AllInner T fields) :
    AllInner (fun s => S s ∧ T s) fields :=
  fun f hf s hs => ⟨hS f hf s hs, hT f hf s hs⟩

-- What holds of all keys of a schema holds of those of inner schemas.
theorem allInner_keys {p : Scalar → Prop} (h : ∀ k ∈ keysOfFields fields, p k) :
    AllInner (fun s => ∀ k ∈ keys s, p k) fields :=
  fun _ hf _ hs => Place.keys_of_mem_schemas (of_mem_keysOfFields h hf).2 hs

end

/-! ## Positions -/

/-- A way from a schema to one inside it: names, and positions among the schemas under them. -/
abbrev Position := List (String × Nat)

/-- One of the schemas under a name. -/
def innerAt (fields : Fields) (name : String) (i : Nat) : Option Value :=
  (Value.lookup fields name).bind fun v => ((Place.ofName name).schemas v)[i]?

/-- What stands at a position of a schema. -/
def schemaAt : Position → Value → Option Value
  | [], v => some v
  | (name, i) :: rest, .object fields => (innerAt fields name i).bind (schemaAt rest)
  | _ :: _, _ => none

-- An inner schema stands in a field.
theorem mem_of_innerAt {fields : Fields} {name : String} {i : Nat} {schema : Value}
    (h : innerAt fields name i = some schema) :
    ∃ v, (.str name, v) ∈ fields ∧ schema ∈ (Place.ofName name).schemas v := by
  obtain ⟨v, hv, hschema⟩ := Option.bind_eq_some_iff.1 h
  exact ⟨v, Value.mem_of_lookup hv, List.mem_of_getElem? hschema⟩

theorem nodes_lt_of_innerAt {fields : Fields} {name : String} {i : Nat} {schema : Value}
    (h : innerAt fields name i = some schema) : schema.nodes < (Value.object fields).nodes := by
  obtain ⟨v, hv, hschema⟩ := mem_of_innerAt h
  exact allInner_nodes fields _ hv schema (Place.schemas_wide hschema)

theorem schemaAt_append (base rest : Position) (v : Value) :
    schemaAt (base ++ rest) v = (schemaAt base v).bind (schemaAt rest) := by
  induction base generalizing v with
  | nil => rfl
  | cons step base ih =>
    cases v with
    | object fields => simp only [List.cons_append, schemaAt, Option.bind_assoc, funext ih]
    | _ => rfl

end Schema

end ApiContract
