import ApiContract.Proofs.Parameter.Gather
import ApiContract.Proofs.Schema.Levels
import ApiContract.Proofs.Schema.Required

/-!
# The prepared schema of a location

The schema of a location is prepared parameter by parameter, and the names that its properties hide are
required no longer. An object of values is valid under it when each value is valid under the schema of
its own parameter and no name that is still required is missing.
-/

namespace ApiContract.Parameter

open Schema

variable {d : Direction} {g : Gathered} {members values : Fields}

/-! ## Preparing -/

-- Names are told apart from the hidden ones without fail.
theorem visibleNames_texts (hidden names : List String) :
    visibleNames hidden (names.map fun name => .str name) =
      .ok ((names.filter fun name => !hidden.contains name).map fun name => .str name) := by
  induction names with
  | nil => rfl
  | cons name rest ih =>
    rw [List.map_cons, visibleNames, ih, List.filter_cons]
    show (Except.ok (hidden.contains name) >>= fun drop => _) = _
    cases hidden.contains name <;> rfl

/-- The names that are required of a request or a response. -/
def Gathered.visible (g : Gathered) (d : Direction) : List String :=
  g.required.filter fun name => !(flaggedNames (Visibility.hiddenIn d) g.properties).contains name

/-- The fields of the prepared schema of a location, whose properties have been prepared. -/
def Gathered.preparedFields (g : Gathered) (d : Direction) (members : Fields) : Fields :=
  [(.str "type", .str "object"), (.str "properties", .object members)] ++
    if g.required.isEmpty then []
    else [(.str "required", .list ((g.visible d).map fun name => .str name))]

-- In the schema of a location, the hidden names are those of its properties.
theorem hiddenAt_fields {rest : Fields} (hrest : Value.lookup rest "allOf" = none) :
    hiddenAt (Visibility.hiddenIn d) [] ((.str "type", .str "object") ::
      (.str "properties", .object g.properties) :: rest) =
      flaggedNames (Visibility.hiddenIn d) g.properties := by
  have hbranches : hiddenInBranches (Visibility.hiddenIn d) ((.str "type", .str "object") ::
      (.str "properties", .object g.properties) :: rest) = [] := by
    rw [hiddenInBranches, Fields.lookup_cons, Fields.lookup_cons, if_neg (by decide),
      if_neg (by decide), hrest]
  rw [hiddenAt, hbranches, List.append_nil, List.nil_append]
  rfl

-- Preparing the schema of a location prepares the schemas of its parameters.
theorem preparedFor_schema : preparedFor d g.schema =
    (prepareMembers (Visibility.hiddenIn d) g.properties).map fun members =>
      .object (g.preparedFields d members) := by
  have hfields : ∀ (hidden : List String) (rest : Fields),
      prepareFields (Visibility.hiddenIn d) hidden ((.str "type", .str "object") ::
        (.str "properties", .object g.properties) :: rest) =
      prepareMembers (Visibility.hiddenIn d) g.properties >>= fun members =>
        (prepareFields (Visibility.hiddenIn d) hidden rest).map fun rest =>
          (.str "type", .str "object") :: (.str "properties", .object members) :: rest := by
    intro hidden rest
    rw [prepareFields, if_neg (by decide), prepareField_scalar, prepareFields, if_neg (by decide),
      Schema.prepareField, show Place.ofKey (.str "properties") = .schemaMap from rfl]
    cases prepareMembers (Visibility.hiddenIn d) g.properties with
    | error f => rfl
    | ok members => cases prepareFields (Visibility.hiddenIn d) hidden rest <;> rfl
  unfold Gathered.schema Gathered.preparedFields
  cases g.required.isEmpty with
  | true =>
    show prepare _ [] (.object (_ :: _ :: [])) = _
    rw [prepare, hiddenAt_fields rfl, hfields]
    cases prepareMembers (Visibility.hiddenIn d) g.properties <;> rfl
  | false =>
    show prepare _ [] (.object (_ :: _ :: [(.str "required", _)])) = _
    rw [prepare, hiddenAt_fields rfl, hfields, prepareFields, if_neg (by decide),
      Schema.prepareField, if_pos rfl, visibleNames_texts]
    cases prepareMembers (Visibility.hiddenIn d) g.properties <;> rfl

/-! ## Checking -/

section

variable {dialect : Dialect} {root : Value} {judges : Context → Judge} {depth : Nat}
  {siblings : Fields}

theorem checkField_type : Schema.checkField ⟨dialect, d, root, none⟩ judges depth siblings
    (.object values) (.str "type", .str "object") = .valid := by
  cases dialect with
  | v30 =>
    show Rule.singleType _ siblings (.str "object") (.object values) = .valid
    rw [Rule.singleType, if_neg (fun h => by cases h.1), if_neg (fun h => by cases h)]
    rfl
  | v31 => rfl

-- Each property is checked that is there.
theorem checkField_properties : Schema.checkField ⟨dialect, d, root, none⟩ judges depth siblings
      (.object values) (.str "properties", .object members) = .valid ↔
    ∀ name schema, (.str name, schema) ∈ members → ∀ v, Value.lookup values name = some v →
      (judges ⟨dialect, d, root, none⟩).apply schema v = .valid := by
  have hproperties : Schema.checkField ⟨dialect, d, root, none⟩ judges depth siblings
      (.object values) (.str "properties", .object members) =
        .each (Rule.property (judges ⟨dialect, d, root, none⟩) values) members := by
    cases dialect <;> rfl
  have hproperty : ∀ (judge : Judge) name schema,
      Rule.property judge values (.str name, schema) = .valid ↔
        ∀ v, Value.lookup values name = some v → judge.apply schema v = .valid := by
    intro judge name schema
    rw [Rule.property]
    cases Value.lookup values name with
    | none => simp
    | some v => simp [Judge.applyAt_eq_valid_iff]
  rw [hproperties, Outcome.each_eq_valid_iff]
  constructor
  · exact fun h name schema hmem => (hproperty _ name schema).1 (h _ hmem)
  · rintro h ⟨key, schema⟩ hmem
    cases key with
    | str name => exact (hproperty _ name schema).2 (h name schema hmem)
    | _ => rfl

-- Each required name is there.
theorem checkField_required {names : List String} :
    Schema.checkField ⟨dialect, d, root, none⟩ judges depth siblings (.object values)
        (.str "required", .list (names.map fun name => .str name)) = .valid ↔
      ∀ name ∈ names, Value.hasField values name = true := by
  have hrequired : Schema.checkField ⟨dialect, d, root, none⟩ judges depth siblings
      (.object values) (.str "required", .list (names.map fun name => .str name)) =
        .each (demand values) (names.map fun name => .str name) := by
    cases dialect <;> rfl
  have hdemand : ∀ name, demand values (.str name) = .valid ↔ Value.hasField values name = true :=
    fun name => Outcome.require_eq_valid_iff
  rw [hrequired, Outcome.each_eq_valid_iff, List.forall_mem_map]
  exact forall₂_congr fun name _ => hdemand name

theorem checkFields_preparedFields_iff : checkFields ⟨dialect, d, root, none⟩ depth
      (g.preparedFields d members) (.object values) = .valid ↔
    (∀ name schema, (.str name, schema) ∈ members → ∀ v, Value.lookup values name = some v →
      (evaluate depth ⟨dialect, d, root, none⟩).apply schema v = .valid) ∧
    ∀ name ∈ g.visible d, Value.hasField values name = true := by
  rw [checkFields, Outcome.each_eq_valid_iff]
  have hfields : ∀ f, f ∈ g.preparedFields d members ↔ f = (.str "type", .str "object") ∨
      f = (.str "properties", .object members) ∨ g.required.isEmpty = false ∧
        f = (.str "required", .list ((g.visible d).map fun name => .str name)) := by
    intro f
    unfold Gathered.preparedFields
    cases g.required.isEmpty <;> simp
  simp only [hfields, forall_eq_or_imp, checkField_type, checkField_properties, true_and]
  refine and_congr_right' ?_
  cases hempty : g.required.isEmpty with
  | true => simp [Gathered.visible, List.isEmpty_iff.1 hempty]
  | false => simp [checkField_required]

end

/-- The values of a location are valid when each value is valid under the schema of its parameter
alone, and no required name is missing, if the schemas of the parameters that bring values stand
alone. -/
theorem check_preparedFields_iff {dialect : Dialect} (halone : ∀ name schema,
      (.str name, schema) ∈ members → ∀ v, Value.lookup values name = some v → StandsAlone schema) :
    Schema.check dialect d (.object (g.preparedFields d members)) (.object values) = .valid ↔
      (∀ name schema, (.str name, schema) ∈ members → ∀ v, Value.lookup values name = some v →
        Schema.check dialect d schema v = .valid) ∧
      ∀ name ∈ g.visible d, Value.hasField values name = true := by
  have henough : ∀ f ∈ members, f.2.nodes + 1 <
      levels (.object (g.preparedFields d members)) (.object values) := by
    intro f hf
    have hinner : f.2.nodes < (Value.object (g.preparedFields d members)).nodes :=
      allInner_nodes _ (.str "properties", .object members) (List.mem_cons_of_mem _ List.mem_cons_self)
        _ (List.mem_map_of_mem hf)
    have hlevels := nodes_lt_levels (.object (g.preparedFields d members)) (.object values)
    omega
  rw [Schema.check]
  show checkFields _ _ (g.preparedFields d members) (.object values) = .valid ↔ _
  rw [checkFields_preparedFields_iff]
  refine and_congr_left' (forall₃_congr fun name schema hmem => forall₂_congr fun v hv => ?_)
  rw [apply_eq_check (halone name schema hmem v hv) (henough _ hmem)]

end ApiContract.Parameter
