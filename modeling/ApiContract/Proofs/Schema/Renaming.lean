import ApiContract.Direction
import ApiContract.Proofs.Value.Keys
import ApiContract.Schema.Keyword

/-!
# Renamed flags

The two flags of properties can take other names in a schema, in it and in every schema inside it.
Nothing else is touched: neither the names of properties nor what is no schema.
-/

namespace ApiContract

/-! ## The keys of schemas -/

namespace Place

/-- What stands under a key where a draft may be declared: four keywords hold schemas for some of the
drafts only. -/
def wide : Scalar → Place
  | .str "dependencies" => .schemaMap
  | .str "disallow" => .schemaList
  | .str "extends" => .schema
  | .str "type" => .schemaList
  | key => ofKey key

-- Where a dialect finds schemas, so do the drafts.
theorem wide_eq_ofKey {key : Scalar} (h : ofKey key ≠ .data) : wide key = ofKey key := by
  unfold wide
  split
  · exact absurd rfl h
  · exact absurd rfl h
  · exact absurd rfl h
  · exact absurd rfl h
  · rfl

end Place

namespace Schema

mutual
/-- The keys of a schema and of all schemas inside it, those that only a draft looks for among them. -/
def keys : Value → List Scalar
  | .object fields => keysOfFields fields
  | _ => []

/-- The keys of a schema with the given fields. -/
def keysOfFields : Fields → List Scalar
  | [] => []
  | (key, v) :: rest => key :: (keysUnder (Place.wide key) v ++ keysOfFields rest)

/-- The keys of the schemas that stand at a place. -/
def keysUnder (place : Place) : Value → List Scalar
  | .list items =>
    match place with
    | .schema | .schemaList => keysOfItems items
    | _ => []
  | .object fields =>
    match place with
    | .schemaMap => keysOfMembers fields
    | .schema => keysOfFields fields
    | _ => []
  | _ => []

/-- The keys of schemas in a list. -/
def keysOfItems : List Value → List Scalar
  | [] => []
  | v :: rest => keys v ++ keysOfItems rest

/-- The keys of schemas that are the members of an object. -/
def keysOfMembers : Fields → List Scalar
  | [] => []
  | (_, v) :: rest => keys v ++ keysOfMembers rest
end

variable {p : Scalar → Prop} {key : Scalar} {v : Value} {fields : Fields} {items : List Value}

theorem keysUnder_data (v : Value) : keysUnder .data v = [] := by
  cases v <;> rfl

-- What a dialect finds under a key, the drafts find.
theorem of_mem_keysUnder_wide (h : ∀ k ∈ keysUnder (Place.wide key) v, p k) :
    ∀ k ∈ keysUnder (Place.ofKey key) v, p k := by
  by_cases hplace : Place.ofKey key = .data
  · rw [hplace, keysUnder_data]
    exact nofun
  · rwa [← Place.wide_eq_ofKey hplace]

theorem of_mem_keysOfFields (h : ∀ k ∈ keysOfFields fields, p k) (hmem : (key, v) ∈ fields) :
    p key ∧ ∀ k ∈ keysUnder (Place.wide key) v, p k := by
  induction fields with
  | nil => cases hmem
  | cons f rest ih =>
    obtain ⟨key', v'⟩ := f
    simp only [keysOfFields, List.forall_mem_cons, List.forall_mem_append] at h
    cases hmem with
    | head => exact ⟨h.1, h.2.1⟩
    | tail _ hmem => exact ih h.2.2 hmem

-- What holds of all keys holds of those under a name.
theorem of_lookup_keysOfFields {name : String} (h : ∀ k ∈ keysOfFields fields, p k)
    (hv : Value.lookup fields name = some v) : ∀ k ∈ keysUnder (Place.ofName name) v, p k :=
  of_mem_keysUnder_wide (of_mem_keysOfFields h (Value.mem_of_lookup hv)).2

-- A name that no key may have is not there.
theorem lookup_eq_none_of_keys {name : String} (h : ∀ k ∈ keysOfFields fields, p k)
    (hname : ¬ p (.str name)) : Value.lookup fields name = none := by
  cases hlookup : Value.lookup fields name with
  | none => rfl
  | some v => exact absurd (of_mem_keysOfFields h (Value.mem_of_lookup hlookup)).1 hname

theorem of_mem_keysOfItems (h : ∀ k ∈ keysOfItems items, p k) (hmem : v ∈ items) :
    ∀ k ∈ keys v, p k := by
  induction items with
  | nil => cases hmem
  | cons w rest ih =>
    simp only [keysOfItems, List.forall_mem_append] at h
    cases hmem with
    | head => exact h.1
    | tail _ hmem => exact ih h.2 hmem

theorem of_mem_keysOfMembers (h : ∀ k ∈ keysOfMembers fields, p k) (hmem : (key, v) ∈ fields) :
    ∀ k ∈ keys v, p k := by
  induction fields with
  | nil => cases hmem
  | cons f rest ih =>
    obtain ⟨key', v'⟩ := f
    simp only [keysOfMembers, List.forall_mem_append] at h
    cases hmem with
    | head => exact h.1
    | tail _ hmem => exact ih h.2 hmem

end Schema

/-! ## Renaming -/

instance {P : Visibility → Prop} [DecidablePred P] : Decidable (∀ flag, P flag) :=
  decidable_of_iff (P .readOnly ∧ P .writeOnly)
    ⟨fun h flag => by cases flag <;> simp [h], fun h => ⟨h .readOnly, h .writeOnly⟩⟩

theorem Visibility.keyword_injective : Function.Injective Visibility.keyword := by
  intro flag flag' h
  cases flag <;> cases flag' <;> first | rfl | simp [Visibility.keyword] at h

/-- Which flag takes the place of which. -/
structure Renaming where
  flag : Visibility → Visibility

namespace Renaming

/-- The flags change places. -/
def mirror : Renaming := ⟨Visibility.opposite⟩

/-- Nothing changes. -/
def identity : Renaming := ⟨id⟩

/-- Is the key none of those of references? -/
def NoReference (k : Scalar) : Prop := k ≠ .str "$ref" ∧ k ≠ .str "$dynamicRef"

/-- The key of a field of a schema: only flags are renamed. -/
def key (ρ : Renaming) : Scalar → Scalar
  | .str "readOnly" => .str (ρ.flag .readOnly).keyword
  | .str "writeOnly" => .str (ρ.flag .writeOnly).keyword
  | k => k

mutual
/-- The schema with its flags renamed, in it and in all schemas inside it. -/
def schema (ρ : Renaming) : Value → Value
  | .object fields => .object (ρ.fields fields)
  | v => v

/-- The fields of a schema, in their order. -/
def fields (ρ : Renaming) : Fields → Fields
  | [] => []
  | (key, v) :: rest => (ρ.key key, ρ.under (Place.ofKey key) v) :: ρ.fields rest

/-- What stands at a place of a schema. -/
def under (ρ : Renaming) (place : Place) : Value → Value
  | .list items =>
    match place with
    | .schema | .schemaList => .list (ρ.schemas items)
    | _ => .list items
  | .object fields =>
    match place with
    | .schemaMap => .object (ρ.members fields)
    | .schema => .object (ρ.fields fields)
    | _ => .object fields
  | v => v

/-- Schemas in a list. -/
def schemas (ρ : Renaming) : List Value → List Value
  | [] => []
  | v :: rest => ρ.schema v :: ρ.schemas rest

/-- Schemas that are the members of an object, which keep their names. -/
def members (ρ : Renaming) : Fields → Fields
  | [] => []
  | (key, v) :: rest => (key, ρ.schema v) :: ρ.members rest
end

variable {ρ : Renaming} {name : String}

@[simp] theorem schema_scalar (s : Scalar) : ρ.schema (.scalar s) = .scalar s := by
  simp only [schema]

@[simp] theorem schema_list (items : List Value) : ρ.schema (.list items) = .list items := by
  simp only [schema]

@[simp] theorem schema_object (fields : Fields) :
    ρ.schema (.object fields) = .object (ρ.fields fields) := by
  simp only [schema]

@[simp] theorem under_scalar (place : Place) (s : Scalar) :
    ρ.under place (.scalar s) = .scalar s := by
  simp only [under]

@[simp] theorem under_data (v : Value) : ρ.under .data v = v := by
  cases v <;> simp only [under]

theorem schemas_eq_map (items : List Value) : ρ.schemas items = items.map ρ.schema := by
  induction items with
  | nil => simp only [schemas, List.map_nil]
  | cons v rest ih => simp only [schemas, List.map_cons, ih]

theorem members_eq_map (members : Fields) :
    ρ.members members = members.map fun f => (f.1, ρ.schema f.2) := by
  induction members with
  | nil => simp only [Renaming.members, List.map_nil]
  | cons f rest ih => simp only [Renaming.members, List.map_cons, ih]

/-- A field of a schema. -/
def field (ρ : Renaming) (f : Scalar × Value) : Scalar × Value :=
  (ρ.key f.1, ρ.under (Place.ofKey f.1) f.2)

theorem fields_eq_map (fields : Fields) : ρ.fields fields = fields.map ρ.field := by
  induction fields with
  | nil => simp only [Renaming.fields, List.map_nil]
  | cons f rest ih => simp only [Renaming.fields, List.map_cons, ih, field]

/-! ### Keys -/

-- A key is one of the flags or none.
theorem flag_or_ne (k : Scalar) :
    (∃ flag : Visibility, k = .str flag.keyword) ∨ ∀ flag : Visibility, k ≠ .str flag.keyword := by
  by_cases h : ∃ flag : Visibility, k = .str flag.keyword
  · exact .inl h
  · exact .inr fun flag hk => h ⟨flag, hk⟩

theorem key_keyword (flag : Visibility) :
    ρ.key (.str flag.keyword) = .str (ρ.flag flag).keyword := by
  cases flag <;> rfl

-- A key that is no flag is kept.
theorem key_of_ne {k : Scalar} (h : ∀ flag : Visibility, k ≠ .str flag.keyword) :
    ρ.key k = k := by
  unfold key
  split
  · exact absurd rfl (h .readOnly)
  · exact absurd rfl (h .writeOnly)
  · rfl

-- A name that is no flag belongs to the same fields as before.
theorem key_eq_str_iff {k : Scalar} (hname : ∀ flag : Visibility, name ≠ flag.keyword) :
    ρ.key k = .str name ↔ k = .str name := by
  obtain ⟨flag, rfl⟩ | hk := flag_or_ne k
  · rw [key_keyword]
    simp [(hname _).symm]
  · rw [key_of_ne hk]

-- A flag belongs to the fields that had the one whose place it takes.
theorem key_eq_flag_iff (hinjective : Function.Injective ρ.flag) {k : Scalar}
    {flag : Visibility} : ρ.key k = .str (ρ.flag flag).keyword ↔ k = .str flag.keyword := by
  obtain ⟨flag', rfl⟩ | hk := flag_or_ne k
  · rw [key_keyword, Scalar.str.injEq, Scalar.str.injEq, Visibility.keyword_injective.eq_iff,
      Visibility.keyword_injective.eq_iff, hinjective.eq_iff]
  · rw [key_of_ne hk]
    simp [hk]

-- A flag holds no schema.
theorem place_keyword (flag : Visibility) : Place.ofKey (.str flag.keyword) = .data := by
  cases flag <;> rfl

theorem place_key (k : Scalar) : Place.ofKey (ρ.key k) = Place.ofKey k := by
  obtain ⟨flag, rfl⟩ | hk := flag_or_ne k
  · rw [key_keyword, place_keyword, place_keyword]
  · rw [key_of_ne hk]

/-! ### Lookups -/

-- What stands under a name that is no flag is what stood there, renamed.
theorem lookup_fields (hname : ∀ flag : Visibility, name ≠ flag.keyword) (fields : Fields) :
    Value.lookup (ρ.fields fields) name =
      (Value.lookup fields name).map (ρ.under (Place.ofName name)) := by
  induction fields with
  | nil => simp only [Renaming.fields, Value.lookup, List.lookup_nil, Option.map_none]
  | cons f rest ih =>
    obtain ⟨k, v⟩ := f
    simp only [Renaming.fields]
    rw [Fields.lookup_cons, Fields.lookup_cons, ih]
    by_cases hk : k = .str name
    · subst hk
      rw [if_pos ((key_eq_str_iff hname).2 rfl), if_pos rfl]
      rfl
    · rw [if_neg (mt (key_eq_str_iff hname).1 hk), if_neg hk]

theorem hasField_fields (hname : ∀ flag : Visibility, name ≠ flag.keyword) (fields : Fields) :
    Value.hasField (ρ.fields fields) name = Value.hasField fields name := by
  rw [Value.hasField, Value.hasField, lookup_fields hname, Option.isSome_map]

-- What stood under a flag stands under the one that takes its place.
theorem lookup_flag (hinjective : Function.Injective ρ.flag) (flag : Visibility)
    (fields : Fields) :
    Value.lookup (ρ.fields fields) (ρ.flag flag).keyword = Value.lookup fields flag.keyword := by
  induction fields with
  | nil => simp only [Renaming.fields, Value.lookup, List.lookup_nil]
  | cons f rest ih =>
    obtain ⟨k, v⟩ := f
    simp only [Renaming.fields]
    rw [Fields.lookup_cons, Fields.lookup_cons, ih]
    by_cases hk : k = .str flag.keyword
    · rw [if_pos ((key_eq_flag_iff hinjective).2 hk), if_pos hk, hk, place_keyword, under_data]
    · rw [if_neg (mt (key_eq_flag_iff hinjective).1 hk), if_neg hk]

-- The members of an object of schemas are found under their names.
theorem lookup_members (members : Fields) (name : String) :
    Value.lookup (ρ.members members) name = (Value.lookup members name).map ρ.schema := by
  induction members with
  | nil => simp only [Renaming.members, Value.lookup, List.lookup_nil, Option.map_none]
  | cons f rest ih =>
    obtain ⟨k, v⟩ := f
    simp only [Renaming.members]
    rw [Fields.lookup_cons, Fields.lookup_cons, ih]
    split <;> rfl

theorem hasField_members (members : Fields) (name : String) :
    Value.hasField (ρ.members members) name = Value.hasField members name := by
  rw [Value.hasField, Value.hasField, lookup_members, Option.isSome_map]

/-! ### Size -/

mutual
-- A renamed schema has as many nodes as before.
theorem nodes_schema : ∀ v : Value, (ρ.schema v).nodes = v.nodes
  | .scalar s => by rw [schema_scalar]
  | .list items => by rw [schema_list]
  | .object fields => by
    rw [schema_object, Value.nodes, Value.nodes, nodes_fields fields]

theorem nodes_fields : ∀ fields : Fields, Value.nodesFields (ρ.fields fields) =
    Value.nodesFields fields
  | [] => by simp only [Renaming.fields]
  | (key, v) :: rest => by
    simp only [Renaming.fields, Value.nodesFields, nodes_under (Place.ofKey key) v,
      nodes_fields rest]

theorem nodes_under : ∀ (place : Place) (v : Value), (ρ.under place v).nodes = v.nodes
  | place, .scalar s => by rw [under_scalar]
  | place, .list items => by
    cases place <;> simp only [under, Value.nodes, nodes_schemas items]
  | place, .object fields => by
    cases place <;> simp only [under, Value.nodes, nodes_fields fields, nodes_members fields]

theorem nodes_schemas : ∀ items : List Value, Value.nodesItems (ρ.schemas items) =
    Value.nodesItems items
  | [] => by simp only [schemas]
  | v :: rest => by simp only [schemas, Value.nodesItems, nodes_schema v, nodes_schemas rest]

theorem nodes_members : ∀ members : Fields, Value.nodesFields (ρ.members members) =
    Value.nodesFields members
  | [] => by simp only [Renaming.members]
  | (key, v) :: rest => by
    simp only [Renaming.members, Value.nodesFields, nodes_schema v, nodes_members rest]
end

/-! ### Nothing renamed -/

mutual
-- Where no key changes, nothing does.
theorem schema_identity : ∀ v : Value, identity.schema v = v
  | .scalar s => by rw [schema_scalar]
  | .list items => by rw [schema_list]
  | .object fields => by rw [schema_object, fields_identity fields]

theorem fields_identity : ∀ fields : Fields, identity.fields fields = fields
  | [] => by simp only [Renaming.fields]
  | (key, v) :: rest => by
    simp only [Renaming.fields, key_identity key, under_identity (Place.ofKey key) v,
      fields_identity rest]

theorem key_identity (k : Scalar) : identity.key k = k := by
  unfold key
  split <;> rfl

theorem under_identity : ∀ (place : Place) (v : Value), identity.under place v = v
  | place, .scalar s => by rw [under_scalar]
  | place, .list items => by cases place <;> simp only [under, schemas_identity items]
  | place, .object fields => by
    cases place <;> simp only [under, fields_identity fields, members_identity fields]

theorem schemas_identity : ∀ items : List Value, identity.schemas items = items
  | [] => by simp only [schemas]
  | v :: rest => by simp only [schemas, schema_identity v, schemas_identity rest]

theorem members_identity : ∀ members : Fields, identity.members members = members
  | [] => by simp only [Renaming.members]
  | (key, v) :: rest => by simp only [Renaming.members, schema_identity v, members_identity rest]
end

/-! ## Comparing what is found -/

/-- How something that is found is told: with other flags and directions, and with something else in the
place of each schema that it quotes. -/
structure Telling where
  flag : Visibility → Visibility
  direction : Direction → Direction
  quoted : Value → Value

/-- Everything is told as it is found. -/
def Telling.plain : Telling := ⟨id, id, id⟩

/-- How to tell what is found in a schema and what is found in the renamed one so that both can be
compared. The schemas that are quoted are told alike, and so are those that are not renamed. -/
structure Comparison (ρ : Renaming) where
  before : Telling
  after : Telling
  renamed : ∀ s, after.quoted (ρ.schema s) = before.quoted s
  kept : ∀ s, after.quoted s = before.quoted s

namespace Comparison

/-- The same comparison where nothing is renamed. -/
def unrenamed (τ : ρ.Comparison) : identity.Comparison :=
  ⟨τ.before, τ.after, fun s => by rw [schema_identity, τ.kept], τ.kept⟩

/-- Flags and directions are told as their opposites. Which schemas are quoted is not told. -/
def mirrored : mirror.Comparison :=
  ⟨⟨Visibility.opposite, Direction.opposite, fun _ => .null⟩, ⟨id, id, fun _ => .null⟩,
    fun _ => rfl, fun _ => rfl⟩

/-- Nothing is renamed, and everything is told as it is found. -/
def plain : identity.Comparison :=
  ⟨.plain, .plain, fun s => by rw [schema_identity], fun _ => rfl⟩

end Comparison

end Renaming

end ApiContract
