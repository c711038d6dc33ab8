import ApiContract.Proofs.Schema.Position
import ApiContract.Proofs.Schema.Required

/-!
# What preparing keeps

Every position at which a schema stands in a schema is one of the prepared schema and the other way
round. What stands there has the same keys in the same order, discriminators aside, and the same
under each key, other schemas aside; only names are left out of what is required, and only such as
are hidden by a schema of the same composition. A schema without discriminators and flagged
properties is its own prepared form.
-/

namespace ApiContract.Schema

/-! ## Compositions -/

/-- The position of a node of a composition. -/
def Position.ofBranches (path : List Nat) : Position := path.map fun i => ("allOf", i)

variable {flag : Visibility} {hidden inherited : List String} {fields : Fields} {name : String}

theorem innerAt_allOf (fields : Fields) (i : Nat) :
    innerAt fields "allOf" i = (allOfBranches fields)[i]? := by
  unfold innerAt allOfBranches
  cases Value.lookup fields "allOf" with
  | none => rfl
  | some v => cases v <;> rfl

-- The nodes of a composition are schemas inside the schema at its root.
theorem schemaAt_ofBranches {path : List Nat} {schema : Value} {node : Fields}
    (h : nodeAt path schema = some node) :
    schemaAt (.ofBranches path) schema = some (.object node) := by
  induction path generalizing schema with
  | nil =>
    cases schema with
    | object fields =>
      cases h
      rfl
    | _ => cases h
  | cons i path ih =>
    cases schema with
    | object fields =>
      obtain ⟨branch, hbranch, hnode⟩ := Option.bind_eq_some_iff.1 h
      show (innerAt fields "allOf" i).bind _ = _
      rw [innerAt_allOf, hbranch, Option.bind_some]
      exact ih hnode
    | _ => cases h

/-! ## What is kept at a position -/

/-- The name is hidden by some schema of the composition that the schema at the position belongs to:
the position and the one of that schema are reached from one schema through `allOf` alone. -/
def HiddenAround (flag : Visibility) (schema : Value) (position : Position) (name : String) : Prop :=
  ∃ base path origin root, position = base ++ .ofBranches path ∧ schemaAt base schema = some root ∧
    Hides flag root origin name

/-- What is kept of a field: its key and the outline of what stands under it. Of required names those
are kept that are not hidden. -/
inductive KeptField (hidden : List String) : Scalar × Value → Scalar × Value → Prop
  | required {names : List Value} : KeptField hidden (.str "required", .list names)
      (.str "required", .list (names.filter fun name => !hidden.any (.str · == name)))
  | other {key : Scalar} {v w : Value} (hnames : key = .str "required" → ∀ names, v ≠ .list names)
      (houtline : (Place.ofKey key).outline w = (Place.ofKey key).outline v) :
      KeptField hidden (key, v) (key, w)

/-- What is kept of a schema: an object keeps all of its fields but discriminators, in their order, and
anything else is kept as it is. -/
inductive KeptSchema (hidden : List String) : Value → Value → Prop
  | other {v : Value} (h : v.isObject = false) : KeptSchema hidden v v
  | object {fields kept : Fields}
      (h : List.Forall₂ (KeptField hidden)
        (fields.filter fun f => f.1 ≠ .str "discriminator") kept) :
      KeptSchema hidden (.object fields) (.object kept)

/-- What preparing makes of the value of a field: of names, of the branches of a composition, of other
schemas, and of anything else. -/
inductive PreparedField (flag : Visibility) (hidden : List String) : Scalar → Value → Value → Prop
  | names {names kept : List Value} (h : visibleNames hidden names = .ok kept) :
      PreparedField flag hidden (.str "required") (.list names) (.list kept)
  | branches {branches prepared : List Value}
      (h : prepareItems flag hidden branches = .ok prepared) :
      PreparedField flag hidden (.str "allOf") (.list branches) (.list prepared)
  | items {key : Scalar} {items prepared : List Value}
      (hplace : Place.ofKey key = .schema ∨ Place.ofKey key = .schemaList)
      (hkey : key ≠ .str "allOf") (h : prepareItems flag [] items = .ok prepared) :
      PreparedField flag hidden key (.list items) (.list prepared)
  | members {key : Scalar} {members prepared : Fields} (hplace : Place.ofKey key = .schemaMap)
      (h : prepareMembers flag members = .ok prepared) :
      PreparedField flag hidden key (.object members) (.object prepared)
  | schema {key : Scalar} {v w : Value} (hplace : Place.ofKey key = .schema)
      (hitems : ∀ items, v ≠ .list items) (h : prepare flag [] v = .ok w) :
      PreparedField flag hidden key v w
  | data {key : Scalar} {v : Value} (hschemas : (Place.ofKey key).schemas v = [])
      (hnames : key = .str "required" → ∀ names, v ≠ .list names) :
      PreparedField flag hidden key v v

theorem preparedField_of_prepareField {key : Scalar} {v w : Value}
    (h : prepareField flag hidden key v = .ok w) : PreparedField flag hidden key v w := by
  cases v with
  | scalar s =>
    rw [prepareField_scalar] at h
    obtain rfl := Except.ok.inj h
    cases hplace : Place.ofKey key with
    | schema => exact .schema hplace (fun _ heq => by cases heq) rfl
    | _ => exact .data (by simp [Place.schemas, hplace]) fun _ _ heq => by cases heq
  | list items =>
    by_cases hrequired : key = .str "required"
    · subst hrequired
      obtain ⟨kept, rfl, hkept⟩ := prepareField_required h
      exact .names hkept
    by_cases hallOf : key = .str "allOf"
    · subst hallOf
      obtain ⟨prepared, rfl, hprepared⟩ := prepareField_allOf h
      exact .branches hprepared
    have hitems : Place.ofKey key = .schema ∨ Place.ofKey key = .schemaList →
        PreparedField flag hidden key (.list items) w := by
      intro hplace
      have h : (do return .list (← prepareItems flag [] items)) = Except.ok w := by
        rw [← h, prepareField, if_neg hrequired, if_neg hallOf]
        rcases hplace with hplace | hplace <;> rw [hplace]
      obtain ⟨prepared, hprepared, h⟩ := Result.bind_eq_ok_iff.1 h
      obtain rfl := Except.ok.inj h
      exact .items hplace hallOf hprepared
    rw [prepareField, if_neg hrequired, if_neg hallOf] at h
    cases hplace : Place.ofKey key with
    | schema => exact hitems (.inl hplace)
    | schemaList => exact hitems (.inr hplace)
    | _ =>
      rw [hplace] at h
      obtain rfl := Except.ok.inj h
      exact .data (by simp [Place.schemas, hplace]) fun heq => absurd heq hrequired
  | object members =>
    rw [prepareField] at h
    cases hplace : Place.ofKey key with
    | schemaMap =>
      rw [hplace] at h
      obtain ⟨prepared, hprepared, h⟩ := Result.bind_eq_ok_iff.1 h
      obtain rfl := Except.ok.inj h
      exact .members hplace hprepared
    | schema =>
      rw [hplace] at h
      exact .schema hplace (fun _ heq => by cases heq) (by rwa [prepare])
    | _ =>
      rw [hplace] at h
      obtain rfl := Except.ok.inj h
      exact .data (by simp [Place.schemas, hplace]) fun _ _ heq => by cases heq

-- Visible names are those that are not hidden, in their order.
theorem filter_of_visibleNames {names kept : List Value} (h : visibleNames hidden names = .ok kept) :
    kept = names.filter fun name => !hidden.any (.str · == name) := by
  induction names generalizing kept with
  | nil => exact (Except.ok.inj h).symm
  | cons first rest ih =>
    unfold visibleNames at h
    simp only [Result.bind_eq_ok_iff] at h
    obtain ⟨drop, hdrop, kept', hkept, h⟩ := h
    have hfirst : hidden.any (.str · == first) = drop := by
      cases first with
      | list items => cases hdrop
      | object fields => cases hdrop
      | scalar s =>
        cases s with
        | str name =>
          rw [← Except.ok.inj hdrop, Bool.eq_iff_iff]
          simp
        | _ =>
          rw [← Except.ok.inj hdrop]
          simp
    rw [List.filter_cons, hfirst, ← ih hkept, ← Except.ok.inj h]
    cases drop <;> rfl

-- A list of schemas stands for each of them by nothing.
theorem outline_list {key : Scalar} {items : List Value}
    (hplace : Place.ofKey key = .schema ∨ Place.ofKey key = .schemaList) :
    (Place.ofKey key).outline (.list items) = .list (items.map fun _ => .null) := by
  rcases hplace with hplace | hplace <;> simp [Place.outline, hplace]

-- A schema by itself is the only one, and nothing stands for it.
theorem outline_of_schema {key : Scalar} {v : Value} (hplace : Place.ofKey key = .schema)
    (hitems : ∀ items, v ≠ .list items) : (Place.ofKey key).outline v = .null := by
  cases v with
  | list items => exact absurd rfl (hitems items)
  | _ => simp [Place.outline, hplace]

theorem schemas_of_schema {key : Scalar} {v : Value} (hplace : Place.ofKey key = .schema)
    (hitems : ∀ items, v ≠ .list items) : (Place.ofKey key).schemas v = [v] := by
  cases v with
  | list items => exact absurd rfl (hitems items)
  | _ => simp [Place.schemas, hplace]

theorem outline_list_eq {key : Scalar} {items prepared : List Value}
    (hplace : Place.ofKey key = .schema ∨ Place.ofKey key = .schemaList)
    (h : prepareItems flag inherited items = .ok prepared) :
    (Place.ofKey key).outline (.list prepared) = (Place.ofKey key).outline (.list items) := by
  rw [outline_list hplace, outline_list hplace]
  exact congrArg _ (Related.map_eq (prepareItems_eq_ok h) fun _ _ _ => rfl).symm

-- What stands under a key by itself is no list after preparing, if it was none before.
theorem ne_list_of_prepare {v w : Value} (hitems : ∀ items, v ≠ .list items)
    (h : prepare flag inherited v = .ok w) (items : List Value) : w ≠ .list items := by
  rcases prepare_cases h with ⟨-, rfl⟩ | ⟨_, _, -, rfl, -⟩
  · exact hitems items
  · nofun

theorem keptField_of_prepareField {key : Scalar} {v w : Value}
    (h : prepareField flag hidden key v = .ok w) : KeptField hidden (key, v) (key, w) := by
  cases preparedField_of_prepareField h with
  | names hkept =>
    rw [filter_of_visibleNames hkept]
    exact .required
  | branches hprepared =>
    exact .other (fun heq => absurd heq (by decide)) (outline_list_eq (.inr rfl) hprepared)
  | items hplace hkey hprepared =>
    refine .other ?_ (outline_list_eq hplace hprepared)
    rintro rfl
    rcases hplace with hplace | hplace <;> cases hplace
  | members hplace hprepared =>
    refine .other (fun _ _ => nofun) ?_
    have hmembers := Related.map_eq (prepareMembers_eq_ok hprepared)
      (f := fun member => (member.1, Value.null)) (g := fun member => (member.1, Value.null))
      fun f g hfg => by rw [hfg.1]
    simp only [Place.outline, hplace, hmembers]
  | schema hplace hitems hprepare =>
    refine .other (fun _ => hitems) ?_
    rw [outline_of_schema hplace hitems, outline_of_schema hplace (ne_list_of_prepare hitems hprepare)]
  | data hschemas hnames => exact .other hnames rfl

-- The schemas under a key are prepared one by one, and only branches inherit what is hidden.
theorem rel_schemas_of_prepareField {key : Scalar} {v w : Value}
    (h : prepareField flag hidden key v = .ok w) :
    List.Forall₂ (fun s t => prepare flag (if key = .str "allOf" then hidden else []) s = .ok t)
      ((Place.ofKey key).schemas v) ((Place.ofKey key).schemas w) := by
  cases preparedField_of_prepareField h with
  | names hkept => exact .nil
  | branches hprepared => exact prepareItems_eq_ok hprepared
  | items hplace hkey hprepared =>
    have hitems := prepareItems_eq_ok hprepared
    rw [if_neg hkey]
    rcases hplace with hplace | hplace <;> simpa only [Place.schemas, hplace] using hitems
  | members hplace hprepared =>
    have hkey : key ≠ .str "allOf" := by
      rintro rfl
      cases hplace
    rw [if_neg hkey]
    simp only [Place.schemas, hplace, List.forall₂_map_left_iff, List.forall₂_map_right_iff]
    exact (prepareMembers_eq_ok hprepared).imp fun _ _ hfg => hfg.2
  | schema hplace hitems hprepare =>
    have hkey : key ≠ .str "allOf" := by
      rintro rfl
      cases hplace
    rw [if_neg hkey, schemas_of_schema hplace hitems,
      schemas_of_schema hplace (ne_list_of_prepare hitems hprepare)]
    exact .cons hprepare .nil
  | data hschemas hnames =>
    rw [hschemas]
    exact .nil

/-! ## Every position -/

-- What is hidden at a node is inherited or hidden by a node of the composition.
theorem hides_of_mem_hiddenAt (h : name ∈ hiddenAt flag inherited fields) :
    name ∈ inherited ∨ ∃ origin, Hides flag (.object fields) origin name := by
  by_contra hnone
  push Not at hnone
  exact not_mem_hiddenAt_iff.2 ⟨hnone.1, hnone.2 [], fun i => hnone.2 [i]⟩ h

-- What is hidden around a position of an inner schema is hidden around it in the whole.
theorem HiddenAround.below {schema : Value} {position : Position} {i : Nat} {key : String}
    (h : HiddenAround flag schema position name) (hschema : innerAt fields key i = some schema) :
    HiddenAround flag (.object fields) ((key, i) :: position) name := by
  obtain ⟨base, path, origin, root, rfl, hroot, hhides⟩ := h
  refine ⟨(key, i) :: base, path, origin, root, rfl, ?_, hhides⟩
  rw [schemaAt, hschema, Option.bind_some, hroot]

-- An inner schema is prepared from the inner schema in its place.
theorem rel_innerAt_of_prepareFields {kept : Fields}
    (h : prepareFields flag hidden fields = .ok kept) (key : String) (i : Nat) :
    Option.Rel (fun s t => prepare flag (if key = "allOf" then hidden else []) s = .ok t)
      (innerAt fields key i) (innerAt kept key i) := by
  by_cases hkey : key = "discriminator"
  · subst hkey
    have hnone : ∀ fields, innerAt fields "discriminator" i = none := by
      intro fields
      rw [innerAt]
      cases Value.lookup fields "discriminator" <;> rfl
    rw [hnone, hnone]
    exact .none
  · refine Related.rel_bind (rel_lookup_prepareFields h hkey) fun v w hfield => ?_
    have hschemas := rel_schemas_of_prepareField hfield
    simp only [Scalar.str.injEq] at hschemas
    exact Related.rel_getElem? hschemas i

/-- What stands at a position of a schema is kept at that position of the prepared schema. A name that
is not required there any more is inherited along branches or hidden around the position. -/
theorem rel_schemaAt_of_prepare {v w : Value} (h : prepare flag inherited v = .ok w)
    (position : Position) :
    Option.Rel (fun s t => ∃ hidden, (∀ name ∈ hidden,
        (name ∈ inherited ∧ ∃ path, position = .ofBranches path) ∨
          HiddenAround flag v position name) ∧ KeptSchema hidden s t)
      (schemaAt position v) (schemaAt position w) := by
  induction position generalizing v w inherited with
  | nil =>
    refine .some ?_
    rcases prepare_cases h with ⟨hleaf, rfl⟩ | ⟨fields, kept, rfl, rfl, hfields⟩
    · exact ⟨[], fun _ hname => absurd hname List.not_mem_nil, .other hleaf⟩
    · refine ⟨hiddenAt flag inherited fields, fun name hname => ?_, .object ?_⟩
      · rcases hides_of_mem_hiddenAt hname with hinherited | ⟨origin, hhides⟩
        · exact .inl ⟨hinherited, [], rfl⟩
        · exact .inr ⟨[], [], origin, _, rfl, rfl, hhides⟩
      · refine (prepareFields_eq_ok hfields).imp ?_
        rintro ⟨key, v⟩ ⟨key', w⟩ ⟨rfl, hfield⟩
        exact keptField_of_prepareField hfield
  | cons step rest ih =>
    obtain ⟨key, i⟩ := step
    rcases prepare_cases h with ⟨hleaf, rfl⟩ | ⟨fields, kept, rfl, rfl, hfields⟩
    · cases w with
      | object fields => cases hleaf
      | _ => exact .none
    · have hrel := rel_innerAt_of_prepareFields hfields key i
      simp only [schemaAt]
      generalize hs : innerAt fields key i = s at hrel
      generalize innerAt kept key i = t at hrel
      cases hrel with
      | none => exact .none
      | some hprepare =>
        refine Related.rel_imp (ih hprepare) ?_
        rintro s t ⟨hidden, hnames, hkept⟩
        refine ⟨hidden, fun name hname => ?_, hkept⟩
        rcases hnames name hname with ⟨hinherited, path, rfl⟩ | haround
        · by_cases hallOf : key = "allOf"
          · subst hallOf
            rw [if_pos rfl] at hinherited
            -- What the branch inherits is inherited here or hidden by a node of this composition.
            rcases hides_of_mem_hiddenAt hinherited with hinherited | ⟨origin, hhides⟩
            · exact .inl ⟨hinherited, i :: path, rfl⟩
            · exact .inr ⟨[], i :: path, origin, _, rfl, rfl, hhides⟩
          · rw [if_neg hallOf] at hinherited
            cases hinherited
        · exact .inr (haround.below hs)

/-! ## Schemas that are kept whole -/

-- Where there is nothing under a name, all fields have other keys.
theorem filter_eq_self_of_lookup_eq_none (h : Value.lookup fields name = none) :
    fields.filter (fun f => f.1 ≠ .str name) = fields := by
  rw [List.filter_eq_self]
  intro f hf
  have hne : (Scalar.str name == f.1) = false := by simpa using List.lookup_eq_none_iff.1 h f hf
  exact decide_eq_true (Ne.symm (beq_eq_false_iff_ne.1 hne))

theorem KeptField.key_eq {f g : Scalar × Value} (h : KeptField hidden f g) : f.1 = g.1 := by
  cases h <;> rfl

-- Fields are kept whole where no names are hidden and the inner schemas are kept whole.
theorem eq_of_keptFields {kept : Fields} (hdistinct : Fields.distinct fields = true)
    (hfields : List.Forall₂ (KeptField []) fields kept)
    (hinner : ∀ name i, innerAt fields name i = innerAt kept name i) : fields = kept := by
  have hdistinct' : Fields.distinct kept = true := by
    rw [← hdistinct]
    exact (Fields.distinct_congr (Related.map_eq hfields fun _ _ hfg => hfg.key_eq)).symm
  refine Related.eq_of_forall_mem hfields fun f hf g hg hfg => ?_
  cases hfg with
  | @required names =>
    have hall : names.filter (fun name => !([] : List String).any (.str · == name)) = names :=
      List.filter_eq_self.2 fun _ _ => rfl
    rw [hall]
  | @other key v w hnames houtline =>
    refine congrArg _ (Place.eq_of_outline houtline.symm ?_)
    cases key with
    | str name =>
      refine List.ext_getElem? fun i => ?_
      have h := hinner name i
      rwa [innerAt, innerAt, Value.lookup_of_mem hdistinct hf, Value.lookup_of_mem hdistinct' hg]
        at h
    | _ => rfl

/-- What is kept at every position is all there is, where no names are hidden and no schema has a
discriminator. -/
theorem eq_of_kept {v w : Value} (hkeyed : v.wellKeyed = true)
    (hkept : ∀ position, Option.Rel (KeptSchema []) (schemaAt position v) (schemaAt position w))
    (hplain : ∀ position fields, schemaAt position v = some (.object fields) →
      Value.lookup fields "discriminator" = none) : v = w := by
  induction hnodes : v.nodes using Nat.strongRecOn generalizing v w with
  | ind n ih =>
    subst hnodes
    cases hkept [] with
    | some hroot =>
      cases hroot with
      | other => rfl
      | @object fields kept hfields =>
        rw [filter_eq_self_of_lookup_eq_none (hplain [] fields rfl)] at hfields
        simp only [Value.wellKeyed, Bool.and_eq_true] at hkeyed
        refine congrArg Value.object (eq_of_keptFields hkeyed.1 hfields fun name i => ?_)
        have hbelow : ∀ rest, Option.Rel (KeptSchema [])
            ((innerAt fields name i).bind (schemaAt rest))
            ((innerAt kept name i).bind (schemaAt rest)) := fun rest => hkept ((name, i) :: rest)
        have hplain' := fun rest => hplain ((name, i) :: rest)
        simp only [schemaAt] at hplain'
        generalize hs : innerAt fields name i = s at hbelow hplain'
        generalize innerAt kept name i = t at hbelow
        cases s with
        | none =>
          cases t with
          | none => rfl
          | some t => cases hbelow []
        | some s =>
          cases t with
          | none => cases hbelow []
          | some t =>
            obtain ⟨v, hv, hmem⟩ := mem_of_innerAt hs
            refine congrArg _ (ih s.nodes ?_ ?_ hbelow hplain' rfl)
            · have := Place.nodes_le_of_mem_schemas hmem
              have := Value.nodes_le_nodesFields hv
              simp only [Value.nodes]
              omega
            · exact Place.wellKeyed_of_mem_schemas (Value.wellKeyed_of_mem hkeyed.2 hv) hmem

/-- What preparing a schema for a direction keeps. At every position where a schema stands there is a
schema in the prepared form as well, with the same keys in the same order except for discriminators,
and with the same under each key, apart from further schemas and from the list of required names. The
names that are left out of such a list are hidden by a schema of the same composition. A schema
without discriminators and flagged properties is left as it is. -/
theorem prepare_keeps {schema prepared : Value} (h : prepare flag [] schema = .ok prepared) :
    (∀ position, Option.Rel (fun s t => ∃ hidden,
        (∀ name ∈ hidden, HiddenAround flag schema position name) ∧ KeptSchema hidden s t)
      (schemaAt position schema) (schemaAt position prepared)) ∧
    (schema.wellKeyed = true →
      (∀ position fields, schemaAt position schema = some (.object fields) →
        Value.lookup fields "discriminator" = none ∧
        ∀ name, ¬ Hides flag (.object fields) [] name) →
      prepared = schema) := by
  have hkept : ∀ position, Option.Rel (fun s t => ∃ hidden,
      (∀ name ∈ hidden, HiddenAround flag schema position name) ∧ KeptSchema hidden s t)
      (schemaAt position schema) (schemaAt position prepared) := by
    intro position
    refine Related.rel_imp (rel_schemaAt_of_prepare h position) ?_
    rintro s t ⟨hidden, hnames, hst⟩
    refine ⟨hidden, fun name hname => ?_, hst⟩
    rcases hnames name hname with ⟨hinherited, -⟩ | haround
    · cases hinherited
    · exact haround
  refine ⟨hkept, fun hkeyed hplain => ?_⟩
  have hnone : ∀ position name, ¬ HiddenAround flag schema position name := by
    rintro position name ⟨base, path, origin, root, -, hroot, node, properties, property, hnode, h⟩
    have hposition : schemaAt (base ++ .ofBranches origin) schema = some (.object node) := by
      rw [schemaAt_append, hroot, Option.bind_some, schemaAt_ofBranches hnode]
    exact (hplain _ node hposition).2 name ⟨node, properties, property, rfl, h⟩
  refine (eq_of_kept hkeyed (fun position => ?_) fun position fields hfields =>
    (hplain position fields hfields).1).symm
  refine Related.rel_imp (hkept position) ?_
  rintro s t ⟨hidden, hnames, hst⟩
  rwa [List.eq_nil_iff_forall_not_mem.2 fun name hname => hnone position name (hnames name hname)]
    at hst

/-- A schema with a property called `discriminator`, one called `required`, and a discriminator, whose
branch requires what the schema around it hides. -/
def labelledPet : Value :=
  .object
    [(.str "discriminator", .object [(.str "propertyName", .str "kind")]),
      (.str "properties", .object
        [(.str "discriminator", .object [(.str "enum", .list [.str "a", .null])]),
          (.str "required", .object [(.str "readOnly", .bool true)])]),
      (.str "allOf", .list [.object [(.str "required", .list [.str "kind", .str "required"])]])]

-- The properties stay, and the branch requires one name less.
theorem kept_of_labelledPet : ∃ prepared,
    prepare .readOnly [] labelledPet = .ok prepared ∧
      schemaAt [("properties", 0)] prepared =
        some (.object [(.str "enum", .list [.str "a", .null])]) ∧
      schemaAt [("allOf", 0)] prepared = some (.object [(.str "required", .list [.str "kind"])]) ∧
      ∃ hidden, (∀ name ∈ hidden, HiddenAround .readOnly labelledPet [("allOf", 0)] name) ∧
        KeptSchema hidden (.object [(.str "required", .list [.str "kind", .str "required"])])
          (.object [(.str "required", .list [.str "kind"])]) := by
  have hprepared : ∃ prepared, prepare .readOnly [] labelledPet = .ok prepared := ⟨_, rfl⟩
  obtain ⟨prepared, hprepared⟩ := hprepared
  refine ⟨prepared, hprepared, ?_, ?_, ?_⟩
  · cases hprepared
    rfl
  · cases hprepared
    rfl
  · have h := (prepare_keeps hprepared).1 [("allOf", 0)]
    cases hprepared
    cases h with
    | some h => exact h

end ApiContract.Schema
