import ApiContract.Proofs.Schema.Objections
import ApiContract.Schema.Engine

/-!
# Discriminators

A discriminator has no effect. Schemas that are the same without the discriminators in them and in the
schemas inside them are prepared alike, and strict mode has the same against them, so that they are
compiled into one check or fail to compile alike. A member of an object of schemas that is called
`discriminator` is none.
-/

namespace ApiContract.Schema

mutual
/-- A schema without the discriminators in it and in all schemas inside it. -/
def bare : Value → Value
  | .object fields => .object (bareFields fields)
  | v => v

/-- The fields of a schema without its discriminators. -/
def bareFields : Fields → Fields
  | [] => []
  | (key, v) :: rest =>
    if key = .str "discriminator" then bareFields rest
    else (key, bareUnder (Place.ofKey key) v) :: bareFields rest

/-- What stands at a place of a schema, without the discriminators of the schemas there. -/
def bareUnder (place : Place) : Value → Value
  | .list items =>
    match place with
    | .schema | .schemaList => .list (bareItems items)
    | _ => .list items
  | .object fields =>
    match place with
    | .schemaMap => .object (bareMembers fields)
    | .schema => .object (bareFields fields)
    | _ => .object fields
  | v => v

/-- Schemas in a list, without their discriminators. -/
def bareItems : List Value → List Value
  | [] => []
  | v :: rest => bare v :: bareItems rest

/-- Schemas that are the members of an object, without their discriminators. Every member stays. -/
def bareMembers : Fields → Fields
  | [] => []
  | (key, v) :: rest => (key, bare v) :: bareMembers rest
end

variable {flag : Visibility} {fields : Fields} {key : Scalar} {v : Value}

@[simp] theorem bare_scalar (s : Scalar) : bare (.scalar s) = .scalar s := by
  simp only [bare]

@[simp] theorem bare_list (items : List Value) : bare (.list items) = .list items := by
  simp only [bare]

@[simp] theorem bare_object (fields : Fields) :
    bare (.object fields) = .object (bareFields fields) := by
  simp only [bare]

theorem bareItems_eq_map (items : List Value) : bareItems items = items.map bare := by
  induction items with
  | nil => simp only [bareItems, List.map_nil]
  | cons v rest ih => simp only [bareItems, List.map_cons, ih]

theorem bareMembers_eq_map (members : Fields) :
    bareMembers members = members.map fun f => (f.1, bare f.2) := by
  induction members with
  | nil => simp only [bareMembers, List.map_nil]
  | cons f rest ih => simp only [bareMembers, List.map_cons, ih]

theorem bareUnder_eq_map (place : Place) : bareUnder place = place.map bare := by
  funext v
  cases v with
  | scalar s => cases place <;> simp only [bareUnder, Place.map, bare_scalar]
  | list items => cases place <;> simp only [bareUnder, Place.map, bareItems_eq_map]
  | object fields => cases place <;> simp only [bareUnder, Place.map, bare_object, bareMembers_eq_map]

@[simp] theorem bareUnder_data (v : Value) : bareUnder .data v = v := by
  cases v <;> simp only [bareUnder]

-- Under every other name there is what stood there, without discriminators.
theorem lookup_bareFields {name : String} (hname : name ≠ "discriminator") (fields : Fields) :
    Value.lookup (bareFields fields) name =
      (Value.lookup fields name).map (bareUnder (Place.ofName name)) := by
  induction fields with
  | nil => simp only [bareFields, Value.lookup, List.lookup_nil, Option.map_none]
  | cons f rest ih =>
    obtain ⟨key, v⟩ := f
    rw [bareFields, Fields.lookup_cons]
    by_cases hkey : key = .str "discriminator"
    · have hother : key ≠ .str name := by
        rw [hkey]
        simpa using hname.symm
      rw [if_pos hkey, if_neg hother, ih]
    · rw [if_neg hkey, Fields.lookup_cons, ih]
      by_cases hsame : key = .str name
      · subst hsame
        rw [if_pos rfl, if_pos rfl]
        rfl
      · rw [if_neg hsame, if_neg hsame]

-- Discriminators are left out of the schemas inside a schema too.
theorem inward_bare : Inward bare bareFields := by
  have hother : ∀ name ∈ placeNames, name ≠ "discriminator" := by decide
  refine ⟨bare_scalar, bare_list, bare_object, fun fields name hname => ?_⟩
  rw [lookup_bareFields (hother name hname), bareUnder_eq_map]

/-! ## Preparation -/

theorem isFlagged_bare (flag : Visibility) (v : Value) : isFlagged flag (bare v) = isFlagged flag v := by
  cases v with
  | scalar s => rw [bare_scalar]
  | list items => rw [bare_list]
  | object fields =>
    have hname : flag.keyword ≠ "discriminator" := by cases flag <;> decide
    have hplace : bareUnder (Place.ofName flag.keyword) = id := by
      funext v
      cases flag <;> exact bareUnder_data v
    rw [bare_object, isFlagged, isFlagged, Value.member?, Value.member?, lookup_bareFields hname,
      hplace, Option.map_id]
    rfl

theorem hiddenNames_bare (flag : Visibility) (v : Value) :
    hiddenNames flag (bare v) = hiddenNames flag v :=
  inward_bare.hiddenNames_eq v fun _ _ f _ => isFlagged_bare flag f.2

-- No discriminator decides what is hidden.
theorem hiddenAt_bareFields (inherited : List String) (fields : Fields) :
    hiddenAt flag inherited (bareFields fields) = hiddenAt flag inherited fields :=
  inward_bare.hiddenAt_eq inherited (hiddenNames_bare flag _) fun _ _ v _ => hiddenNames_bare flag v

mutual
-- Preparing leaves out discriminators, those that are left out before too.
theorem prepare_bare (flag : Visibility) (inherited : List String) :
    ∀ v : Value, prepare flag inherited (bare v) = prepare flag inherited v
  | .scalar s => by rw [bare_scalar]
  | .list items => by rw [bare_list]
  | .object fields => by
    simp only [bare_object, prepare, hiddenAt_bareFields, prepareFields_bareFields flag _ fields]

theorem prepareFields_bareFields (flag : Visibility) (hidden : List String) :
    ∀ fields : Fields, prepareFields flag hidden (bareFields fields) =
      prepareFields flag hidden fields
  | [] => by simp only [bareFields]
  | (key, v) :: rest => by
    by_cases hkey : key = .str "discriminator"
    · simp only [bareFields, prepareFields, if_pos hkey, prepareFields_bareFields flag hidden rest]
    · simp only [bareFields, prepareFields, if_neg hkey, prepareField_bareUnder flag hidden key v,
        prepareFields_bareFields flag hidden rest]

theorem prepareField_bareUnder (flag : Visibility) (hidden : List String) (key : Scalar) :
    ∀ v : Value, prepareField flag hidden key (bareUnder (Place.ofKey key) v) =
      prepareField flag hidden key v
  | .scalar s => by simp only [bareUnder]
  | .list items => by
    by_cases hrequired : key = .str "required"
    · have hplace : Place.ofKey key = .data := by rw [hrequired]; rfl
      rw [hplace, bareUnder_data]
    · by_cases hallOf : key = .str "allOf"
      · have hplace : Place.ofKey key = .schemaList := by rw [hallOf]; rfl
        simp only [hplace, bareUnder, prepareField, if_neg hrequired, if_pos hallOf,
          prepareItems_bareItems flag hidden items]
      · cases hplace : Place.ofKey key with
        | schemaMap | data => simp only [bareUnder]
        | schema | schemaList =>
          simp only [bareUnder, prepareField_list hrequired hallOf, hplace,
            prepareItems_bareItems flag [] items]
  | .object fields => by
    cases hplace : Place.ofKey key with
    | schemaMap =>
      simp only [bareUnder, prepareField, hplace, prepareMembers_bareMembers flag fields]
    | schema =>
      simp only [bareUnder, prepareField, hplace, hiddenAt_bareFields,
        prepareFields_bareFields flag _ fields]
    | schemaList | data => simp only [bareUnder]

theorem prepareItems_bareItems (flag : Visibility) (inherited : List String) :
    ∀ items : List Value, prepareItems flag inherited (bareItems items) =
      prepareItems flag inherited items
  | [] => by simp only [bareItems]
  | v :: rest => by
    simp only [bareItems, prepareItems, prepare_bare flag inherited v,
      prepareItems_bareItems flag inherited rest]

theorem prepareMembers_bareMembers (flag : Visibility) :
    ∀ members : Fields, prepareMembers flag (bareMembers members) = prepareMembers flag members
  | [] => by simp only [bareMembers]
  | (key, v) :: rest => by
    simp only [bareMembers, prepareMembers, prepare_bare flag [] v,
      prepareMembers_bareMembers flag rest]
end

/-! ## Strict mode -/

variable {d : Dialect} {depth depth' : Nat} {pointer : String}

-- The fields that stay have their problems, and a discriminator has none in either dialect.
theorem flatMap_fieldProblems_bareFields (d : Dialect) (pointer : String) (fields : Fields) :
    (bareFields fields).flatMap (fieldProblems d pointer) =
      fields.flatMap (fieldProblems d pointer) := by
  induction fields with
  | nil => rw [bareFields]
  | cons f rest ih =>
    obtain ⟨key, v⟩ := f
    rw [bareFields, List.flatMap_cons]
    by_cases hkey : key = .str "discriminator"
    · have hknown : knowsKeyword d "discriminator" = true := by cases d <;> decide
      have hnone : fieldProblems d pointer (key, v) = [] := by
        rw [hkey, fieldProblems_of_ne_format d pointer (by decide), hknown]
        simp
      rw [if_pos hkey, ih, hnone, List.nil_append]
    · have hsame : fieldProblems d pointer (key, bareUnder (Place.ofKey key) v) =
          fieldProblems d pointer (key, v) := by
        refine fieldProblems_congr d pointer fun hformat => ?_
        rw [hformat, show Place.ofKey (.str "format") = .data from rfl, bareUnder_data]
      rw [if_neg hkey, List.flatMap_cons, ih, hsame]

-- The schemas that are looked at inside a schema are smaller.
theorem nodes_lt_of_mem_innerSchemas {q : String × Value} (h : q ∈ innerSchemas pointer fields) :
    q.2.nodes < (Value.object fields).nodes := by
  rw [innerSchemas_eq] at h
  obtain ⟨⟨step, s⟩, hstep, rfl⟩ := List.mem_map.1 h
  exact nodes_lt_of_innerAt (mem_innerSteps_iff.1 hstep)

-- From as many levels on as a schema has nodes, it makes no difference how many there are.
theorem problemsWithin_of_nodes_le (h : v.nodes ≤ depth) (h' : v.nodes ≤ depth') :
    problemsWithin d depth pointer v = problemsWithin d depth' pointer v := by
  induction depth generalizing depth' pointer v with
  | zero => exact absurd h (Nat.not_le.2 v.nodes_pos)
  | succ depth ih =>
    obtain ⟨depth', rfl⟩ : ∃ n, depth' = n + 1 :=
      ⟨depth' - 1, by have := v.nodes_pos; omega⟩
    cases v with
    | scalar s => rfl
    | list items => rfl
    | object fields =>
      rw [problemsWithin, problemsWithin]
      congr 1
      refine List.flatMap_congr fun q hq => ?_
      have hsmaller := nodes_lt_of_mem_innerSchemas hq
      exact ih (by omega) (by omega)

/-- Strict mode has the same against a schema without its discriminators. -/
theorem problems_bare (d : Dialect) (v : Value) : problems d (bare v) = problems d v := by
  have hsame := inward_bare.problemsWithin_eq d (flatMap_fieldProblems_bareFields d)
    (max v.nodes (bare v).nodes) "#" v
  rw [problems, problems, problemsWithin_of_nodes_le (Nat.le_refl _) (Nat.le_max_right v.nodes _),
    hsame, problemsWithin_of_nodes_le (Nat.le_max_left _ _) (Nat.le_refl _)]

/-! ## Compilation -/

-- A schema is compiled as it is without its discriminators.
theorem compileSchema_bare (options : EngineOptions) (version : Option String)
    (direction : Direction) (v : Value) :
    Engine.compileSchema options version direction (bare v) =
      Engine.compileSchema options version direction v := by
  cases v with
  | scalar s => rw [bare_scalar]
  | list items => rw [bare_list]
  | object fields =>
    have hproblems := problems_bare (Dialect.ofVersion version) (.object fields)
    have hprepared : preparedFor direction (bare (.object fields)) =
        preparedFor direction (.object fields) := prepare_bare _ [] _
    rw [bare_object] at hproblems hprepared ⊢
    rw [Engine.compileSchema, Engine.compileSchema, hproblems, hprepared]
    rfl

/-- Discriminators have no effect. Schemas that are the same without the discriminators in them and in
all schemas inside them are compiled into one check, which answers to every value alike, or fail to
compile with one failure, whatever the options, the version and the direction. -/
theorem discriminators_have_no_effect {s t : Value} (h : bare s = bare t) (options : EngineOptions)
    (version : Option String) (direction : Direction) :
    Engine.compileSchema options version direction s =
      Engine.compileSchema options version direction t := by
  calc Engine.compileSchema options version direction s
    _ = Engine.compileSchema options version direction (bare s) :=
      (compileSchema_bare options version direction s).symm
    _ = Engine.compileSchema options version direction (bare t) := by rw [h]
    _ = Engine.compileSchema options version direction t :=
      compileSchema_bare options version direction t

/-- A pet by its type, with the given fields beside the branches and beside the type. -/
def petChoice (beside within : Fields) : Value :=
  .object (beside ++ [(.str "oneOf", .list
    [.object [(.str "required", .list [.str "bark"])],
      .object (within ++ [(.str "required", .list [.str "meow"]),
        (.str "properties", .object [(.str "discriminator", .object within)])])])])

/-- A discriminator that goes by a property. -/
def byProperty (name : String) : Fields :=
  [(.str "discriminator", .object [(.str "propertyName", .str name)])]

-- Two discriminators, one of them in a property that is called so, are as good as another one or none.
theorem pet_choice_without_discriminators :
    petChoice (byProperty "petType") (byProperty "kind") ≠ petChoice (byProperty "kind") [] ∧
    Engine.compileSchema ⟨true, true⟩ (some "3.1.0") .request
        (petChoice (byProperty "petType") (byProperty "kind")) =
      Engine.compileSchema ⟨true, true⟩ (some "3.1.0") .request (petChoice (byProperty "kind") []) ∧
    (Engine.compileSchema ⟨true, true⟩ (some "3.1.0") .request
      (petChoice (byProperty "kind") [])).isOk = true := by
  have hsame : bare (petChoice (byProperty "petType") (byProperty "kind")) =
      bare (petChoice (byProperty "kind") []) := by decide +kernel
  exact ⟨by decide +kernel, discriminators_have_no_effect hsame _ _ _, by decide +kernel⟩

end ApiContract.Schema
