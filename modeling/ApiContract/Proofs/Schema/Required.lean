import ApiContract.Proofs.Schema.Outcome
import ApiContract.Proofs.Schema.Prepared

/-!
# Required properties of a composition

The schemas that are reached from a schema through `allOf` alone form a tree, whose nodes are named
by the positions of the branches that lead to them. Every node may require names, and every node may
declare properties that are hidden in the direction of a check. A prepared schema still requires a
name at a node exactly when no declaration that hides the name stands at the node, at a node above
it, or in a direct branch of one of these. A declaration deeper in a branch is not seen from above.
-/

namespace ApiContract.Schema

/-- The branches of a schema's `allOf`; anything but a list holds none. -/
def allOfBranches (fields : Fields) : List Value :=
  match Value.lookup fields "allOf" with
  | some (.list branches) => branches
  | _ => []

/-- The names listed under a schema's `required`; anything but a list holds none. -/
def requiredNames (fields : Fields) : List Value :=
  match Value.lookup fields "required" with
  | some (.list names) => names
  | _ => []

/-- The schema object that is reached through `allOf` by way of the branches at the positions. -/
def nodeAt : List Nat → Value → Option Fields
  | [], .object fields => some fields
  | i :: path, .object fields => (allOfBranches fields)[i]?.bind (nodeAt path)
  | _, _ => none

/-- The node at the path requires the name. -/
def Requires (schema : Value) (path : List Nat) (name : String) : Prop :=
  ∃ fields, nodeAt path schema = some fields ∧ .str name ∈ requiredNames fields

/-- The node at the path declares a property with the name and sets its flag. -/
def Hides (flag : Visibility) (schema : Value) (path : List Nat) (name : String) : Prop :=
  ∃ fields properties property, nodeAt path schema = some fields ∧
    Value.lookup fields "properties" = some (.object properties) ∧
    (.str name, property) ∈ properties ∧ property.member? flag.keyword = some (.bool true)

/-- The node at the path reports the name as missing from the value. -/
def Reports (schema : Value) (path : List Nat) (name : String) (v : Value) : Prop :=
  ∃ fields, nodeAt path schema = some fields ∧
    .here (.missing (.str name)) ∈ (Rule.required (.list (requiredNames fields)) v).violations

/-- Wherever the name is required, a property hides it that is declared by the same node or one
above it, or by a direct branch of one of these. -/
def HiddenWhereRequired (flag : Visibility) (schema : Value) (name : String) : Prop :=
  ∀ path, Requires schema path name →
    ∃ origin, Hides flag schema origin name ∧ origin.dropLast <+: path

variable {flag : Visibility} {inherited hidden : List String} {fields prepared : Fields}
  {name : String}

/-! ## Hidden names -/

-- A flag hides a property only when it is the truth value itself.
theorem mem_flaggedNames_iff {properties : Fields} :
    name ∈ flaggedNames flag properties ↔ ∃ property,
      (.str name, property) ∈ properties ∧
        property.member? flag.keyword = some (.bool true) := by
  simp only [flaggedNames, List.mem_filterMap]
  constructor
  · rintro ⟨⟨key, property⟩, hmem, hname⟩
    cases key with
    | str other =>
      by_cases hflag : isFlagged flag property = true
      · simp only [hflag, if_true, Option.some.injEq] at hname
        subst hname
        exact ⟨property, hmem, by simpa [isFlagged] using hflag⟩
      · simp [hflag] at hname
    | _ => cases hname
  · rintro ⟨property, hmem, hflag⟩
    exact ⟨(.str name, property), hmem, by simp [isFlagged, hflag]⟩

theorem mem_hiddenNames_iff {schema : Value} :
    name ∈ hiddenNames flag schema ↔ ∃ properties property,
      schema.member? "properties" = some (.object properties) ∧
        (.str name, property) ∈ properties ∧
        property.member? flag.keyword = some (.bool true) := by
  unfold hiddenNames
  split
  · rename_i properties hproperties
    rw [mem_flaggedNames_iff, hproperties]
    simp
  · rename_i hother
    constructor
    · intro h; cases h
    · rintro ⟨properties, _, hproperties, -⟩
      exact absurd hproperties (hother properties)

/-! ## Nodes and their branches -/

-- Only objects are nodes.
theorem nodeAt_of_not_object {schema : Value} (h : schema.isObject = false) (path : List Nat) :
    nodeAt path schema = none := by
  cases schema with
  | object fields => cases h
  | _ => cases path <;> rfl

theorem hides_nil_iff {schema : Value} :
    Hides flag schema [] name ↔ name ∈ hiddenNames flag schema := by
  rw [mem_hiddenNames_iff]
  cases schema with
  | object fields => simp [Hides, nodeAt, Value.member?]
  | scalar s => simp [Hides, nodeAt, Value.member?]
  | list items => simp [Hides, nodeAt, Value.member?]

-- Below the root a node is a node of the branch that leads to it.
theorem hides_cons_iff {i : Nat} {path : List Nat} :
    Hides flag (.object fields) (i :: path) name ↔
      ∃ branch, (allOfBranches fields)[i]? = some branch ∧ Hides flag branch path name := by
  simp only [Hides, nodeAt, Option.bind_eq_some_iff]
  constructor
  · rintro ⟨node, properties, property, ⟨branch, hbranch, hnode⟩, h⟩
    exact ⟨branch, hbranch, node, properties, property, hnode, h⟩
  · rintro ⟨branch, hbranch, node, properties, property, hnode, h⟩
    exact ⟨node, properties, property, ⟨branch, hbranch, hnode⟩, h⟩

theorem requires_nil_iff :
    Requires (.object fields) [] name ↔ .str name ∈ requiredNames fields := by
  simp [Requires, nodeAt]

theorem requires_cons_iff {i : Nat} {path : List Nat} :
    Requires (.object fields) (i :: path) name ↔
      ∃ branch, (allOfBranches fields)[i]? = some branch ∧ Requires branch path name := by
  simp only [Requires, nodeAt, Option.bind_eq_some_iff]
  constructor
  · rintro ⟨node, ⟨branch, hbranch, hnode⟩, h⟩
    exact ⟨branch, hbranch, node, hnode, h⟩
  · rintro ⟨branch, hbranch, node, hnode, h⟩
    exact ⟨node, ⟨branch, hbranch, hnode⟩, h⟩

-- Branches are looked at by themselves, without their own branches.
theorem hiddenInBranches_eq :
    hiddenInBranches flag fields = (allOfBranches fields).flatMap (hiddenNames flag) := by
  unfold hiddenInBranches allOfBranches
  cases Value.lookup fields "allOf" with
  | none => rfl
  | some v => cases v <;> rfl

-- At a node, what is inherited is hidden, and what the node or one of its branches hides.
theorem not_mem_hiddenAt_iff :
    name ∉ hiddenAt flag inherited fields ↔ name ∉ inherited ∧
      ¬ Hides flag (.object fields) [] name ∧ ∀ i, ¬ Hides flag (.object fields) [i] name := by
  have hbranches : name ∈ hiddenInBranches flag fields ↔
      ∃ i, Hides flag (.object fields) [i] name := by
    rw [hiddenInBranches_eq, List.mem_flatMap]
    simp only [hides_cons_iff, hides_nil_iff]
    constructor
    · rintro ⟨branch, hmem, hname⟩
      rcases List.mem_iff_getElem?.1 hmem with ⟨i, hi⟩
      exact ⟨i, branch, hi, hname⟩
    · rintro ⟨i, branch, hi, hname⟩
      exact ⟨branch, List.mem_of_getElem? hi, hname⟩
  rw [hiddenAt, List.mem_append, List.mem_append, hbranches, hides_nil_iff]
  push Not
  exact and_assoc

/-! ## Where an origin lies -/

section

variable {P : List Nat → Prop}

-- The origins that reach the root are the root and its branches.
theorem forall_origin_nil_iff :
    (∀ origin : List Nat, origin.dropLast <+: [] → P origin) ↔ P [] ∧ ∀ i, P [i] := by
  constructor
  · intro h
    exact ⟨h [] List.nil_prefix, fun i => h [i] List.nil_prefix⟩
  · rintro ⟨hnil, hone⟩ origin horigin
    match origin with
    | [] => exact hnil
    | [i] => exact hone i
    | i :: j :: rest => exact absurd (List.prefix_nil.1 horigin) (by simp)

/-- The origins that reach a node in a branch are the root, its branches, and the origins that reach
the node within the branch. -/
theorem forall_origin_cons_iff {i : Nat} {path : List Nat} :
    (∀ origin : List Nat, origin.dropLast <+: i :: path → P origin) ↔
      (P [] ∧ ∀ j, P [j]) ∧ ∀ origin : List Nat, origin.dropLast <+: path → P (i :: origin) := by
  constructor
  · intro h
    refine ⟨⟨h [] List.nil_prefix, fun j => h [j] List.nil_prefix⟩, fun origin horigin => ?_⟩
    cases origin with
    | nil => exact h [i] List.nil_prefix
    | cons j rest => exact h (i :: j :: rest) (List.cons_prefix_cons.2 ⟨rfl, horigin⟩)
  · rintro ⟨⟨hnil, hone⟩, hbelow⟩ origin horigin
    match origin with
    | [] => exact hnil
    | [j] => exact hone j
    | j :: k :: rest =>
      rcases List.cons_prefix_cons.1 horigin with ⟨rfl, hrest⟩
      exact hbelow (k :: rest) hrest

end

/-! ## Prepared nodes -/

-- Only scalars can be told apart from the hidden names.
theorem visibleNames_eq_ok {names kept : List Value} (h : visibleNames hidden names = .ok kept) :
    (∀ v ∈ kept, ∃ s, v = .scalar s) ∧
      ∀ name, .str name ∈ kept ↔ .str name ∈ names ∧ name ∉ hidden := by
  induction names generalizing kept with
  | nil =>
    rcases Except.ok.inj h with rfl
    simp
  | cons first rest ih =>
    unfold visibleNames at h
    simp only [Result.bind_eq_ok_iff] at h
    rcases h with ⟨drop, hdrop, kept', hkept, h⟩
    rcases ih hkept with ⟨hscalar, hmem⟩
    rcases Except.ok.inj h with rfl
    cases first with
    | list items => cases hdrop
    | object fields => cases hdrop
    | scalar s =>
      have hfirst : ∀ name, s = .str name → drop = hidden.contains name := by
        rintro name rfl
        exact (Except.ok.inj hdrop).symm
      constructor
      · intro v hv
        split at hv
        · exact hscalar v hv
        · rcases List.mem_cons.1 hv with rfl | hv
          · exact ⟨s, rfl⟩
          · exact hscalar v hv
      · intro name
        by_cases hs : s = .str name
        · subst hs
          by_cases hhidden : name ∈ hidden <;> simp [hfirst name rfl, hhidden, hmem]
        · have hne : Value.str name ≠ .scalar s := fun heq => hs (Value.scalar.inj heq).symm
          split <;> simp [hmem, hne]

-- Where names are not given as a list, none are listed before or after.
theorem requiredNames_of_prepared (h : prepareFields flag hidden fields = .ok prepared) :
    visibleNames hidden (requiredNames fields) = .ok (requiredNames prepared) := by
  unfold requiredNames
  cases hv : Value.lookup fields "required" with
  | none =>
    rw [lookup_eq_none_of_prepared h (by decide) hv]
    rfl
  | some v =>
    rcases lookup_of_prepared h (by decide) hv with ⟨w, hw, hfield⟩
    rw [hw]
    cases v with
    | scalar s =>
      rw [prepareField_scalar] at hfield
      rcases Except.ok.inj hfield with rfl
      rfl
    | list names =>
      rcases prepareField_required hfield with ⟨kept, rfl, hkept⟩
      exact hkept
    | object members =>
      rw [prepareField_object (by decide) (by decide)] at hfield
      rcases Except.ok.inj hfield with rfl
      rfl

/-- The branches of a prepared node are the branches of the node, prepared with all that is hidden
at the node. -/
theorem allOfBranches_of_prepared (h : prepareFields flag hidden fields = .ok prepared) :
    List.Forall₂ (fun v w => prepare flag hidden v = .ok w) (allOfBranches fields)
      (allOfBranches prepared) := by
  unfold allOfBranches
  cases hv : Value.lookup fields "allOf" with
  | none =>
    rw [lookup_eq_none_of_prepared h (by decide) hv]
    exact .nil
  | some v =>
    rcases lookup_of_prepared h (by decide) hv with ⟨w, hw, hfield⟩
    rw [hw]
    cases v with
    | scalar s =>
      rw [prepareField_scalar] at hfield
      rcases Except.ok.inj hfield with rfl
      exact .nil
    | list branches =>
      rcases prepareField_allOf hfield with ⟨kept, rfl, hkept⟩
      exact prepareItems_eq_ok hkept
    | object members =>
      rw [prepareField_object (by decide) (by decide)] at hfield
      rcases Except.ok.inj hfield with rfl
      exact .nil

/-- A prepared node requires what the node requires, less what is inherited and what is hidden at a
node that reaches it. -/
theorem requires_prepared_iff {schema prepared : Value} {path : List Nat}
    (h : prepare flag inherited schema = .ok prepared) :
    Requires prepared path name ↔ Requires schema path name ∧ name ∉ inherited ∧
      ∀ origin : List Nat, origin.dropLast <+: path → ¬ Hides flag schema origin name := by
  induction path generalizing schema prepared inherited with
  | nil =>
    rcases prepare_cases h with ⟨hleaf, rfl⟩ | ⟨fields, kept, rfl, rfl, hfields⟩
    · simp [Requires, nodeAt_of_not_object hleaf]
    · have hnames := (visibleNames_eq_ok (requiredNames_of_prepared hfields)).2 name
      rw [requires_nil_iff, requires_nil_iff, hnames, not_mem_hiddenAt_iff, forall_origin_nil_iff]
  | cons i path ih =>
    rcases prepare_cases h with ⟨hleaf, rfl⟩ | ⟨fields, kept, rfl, rfl, hfields⟩
    · simp [Requires, nodeAt_of_not_object hleaf]
    · rw [requires_cons_iff, requires_cons_iff, forall_origin_cons_iff]
      have hrel := Related.rel_getElem? (allOfBranches_of_prepared hfields) i
      cases hbranch : (allOfBranches fields)[i]? with
      | none =>
        rw [hbranch] at hrel
        generalize (allOfBranches kept)[i]? = o at hrel
        cases hrel
        simp
      | some branch =>
        rw [hbranch] at hrel
        generalize (allOfBranches kept)[i]? = o at hrel
        cases hrel with
        | some hprepare =>
          have hbelow : ∀ origin, Hides flag (.object fields) (i :: origin) name ↔
              Hides flag branch origin name := by
            intro origin
            rw [hides_cons_iff, hbranch]
            simp
          simp only [Option.some.injEq, exists_eq_left', hbelow]
          -- What is inherited by the branch is all that is hidden at the node.
          rw [ih hprepare, not_mem_hiddenAt_iff]
          simp only [and_assoc]

/-! ## Reports -/

/-- The demand that one name makes of an object. -/
def demand (members : Fields) (name : Value) : Outcome :=
  .ofResult do return .require (← isPropertyOf members name) (.missing name)

-- A scalar can be asked about, and only a text is ever the name of a property.
theorem demand_scalar (members : Fields) (s : Scalar) :
    ∃ found, demand members (.scalar s) = .require found (.missing (.scalar s)) ∧
      ∀ name, s = .str name → found = Value.hasField members name := by
  cases s with
  | str other =>
    refine ⟨_, rfl, fun name heq => ?_⟩
    rw [Scalar.str.inj heq]
  | _ =>
    refine ⟨false, rfl, fun name heq => ?_⟩
    cases heq

-- An object without the name misses it where the name is listed.
theorem mem_required_iff {names : List Value} {members : Fields}
    (hscalar : ∀ v ∈ names, ∃ s, v = .scalar s) (habsent : Value.lookup members name = none) :
    .here (.missing (.str name)) ∈ (Rule.required (.list names) (.object members)).violations ↔
      .str name ∈ names := by
  have hmissing : Value.hasField members name = false := by simp [Value.hasField, habsent]
  rw [show Rule.required (.list names) (.object members) = .each (demand members) names from rfl]
  rw [Outcome.mem_each_violations]
  · constructor
    · rintro ⟨v, hv, hreport⟩
      rcases hscalar v hv with ⟨s, rfl⟩
      rcases demand_scalar members s with ⟨found, hdemand, -⟩
      rw [hdemand] at hreport
      cases found with
      | true => cases hreport
      | false =>
        have hcause := List.mem_singleton.1 hreport
        simp only [Violation.here, Violation.mk.injEq, true_and, Cause.missing.injEq] at hcause
        rw [hcause]
        exact hv
    · intro hv
      rcases demand_scalar members (.str name) with ⟨found, hdemand, hfound⟩
      refine ⟨.str name, hv, ?_⟩
      rw [hdemand, hfound name rfl, hmissing]
      exact List.mem_singleton_self _
  · intro v hv
    rcases hscalar v hv with ⟨s, rfl⟩
    rcases demand_scalar members s with ⟨found, hdemand, -⟩
    rw [hdemand]
    cases found <;> rfl

-- The names that a prepared node requires are scalars.
theorem scalar_of_nodeAt {schema prepared : Value} {path : List Nat} {node : Fields}
    (h : prepare flag inherited schema = .ok prepared) (hnode : nodeAt path prepared = some node) :
    ∀ v ∈ requiredNames node, ∃ s, v = .scalar s := by
  induction path generalizing schema prepared inherited with
  | nil =>
    rcases prepare_cases h with ⟨hleaf, rfl⟩ | ⟨fields, kept, rfl, rfl, hfields⟩
    · rw [nodeAt_of_not_object hleaf] at hnode
      cases hnode
    · cases hnode
      exact (visibleNames_eq_ok (requiredNames_of_prepared hfields)).1
  | cons i path ih =>
    rcases prepare_cases h with ⟨hleaf, rfl⟩ | ⟨fields, kept, rfl, rfl, hfields⟩
    · rw [nodeAt_of_not_object hleaf] at hnode
      cases hnode
    · rcases Option.bind_eq_some_iff.1 hnode with ⟨branch, hbranch, hnode⟩
      rcases Related.exists_of_mem_right (allOfBranches_of_prepared hfields)
        (List.mem_of_getElem? hbranch) with ⟨_, _, hprepare⟩
      exact ih hprepare hnode

/-- A prepared node reports a name as missing from an object without it exactly when it requires
it. -/
theorem reports_iff_requires {schema prepared : Value} {path : List Nat} {members : Fields}
    (h : prepare flag inherited schema = .ok prepared)
    (habsent : Value.lookup members name = none) :
    Reports prepared path name (.object members) ↔ Requires prepared path name := by
  constructor
  · rintro ⟨node, hnode, hreport⟩
    exact ⟨node, hnode, (mem_required_iff (scalar_of_nodeAt h hnode) habsent).1 hreport⟩
  · rintro ⟨node, hnode, hname⟩
    exact ⟨node, hnode, (mem_required_iff (scalar_of_nodeAt h hnode) habsent).2 hname⟩

/-- In the prepared form of a schema no node of the composition requires a name, and none reports it
as missing from an object without it, exactly when the name is hidden where it is required. -/
theorem nowhere_required_iff {direction : Direction} {schema prepared : Value} {members : Fields}
    (h : preparedFor direction schema = .ok prepared)
    (habsent : Value.lookup members name = none) :
    ((∀ path, ¬ Requires prepared path name) ↔
      HiddenWhereRequired (Visibility.hiddenIn direction) schema name) ∧
    ((∀ path, ¬ Reports prepared path name (.object members)) ↔
      HiddenWhereRequired (Visibility.hiddenIn direction) schema name) := by
  have hnode : ∀ path, ¬ Requires prepared path name ↔ (Requires schema path name →
      ∃ origin, Hides (Visibility.hiddenIn direction) schema origin name ∧
        origin.dropLast <+: path) := by
    intro path
    rw [requires_prepared_iff h]
    constructor
    · intro hnot hrequires
      by_contra hnone
      refine hnot ⟨hrequires, by simp, fun origin horigin hhides => ?_⟩
      exact hnone ⟨origin, hhides, horigin⟩
    · rintro hcovered ⟨hrequires, -, hnone⟩
      rcases hcovered hrequires with ⟨origin, hhides, horigin⟩
      exact hnone origin horigin hhides
  constructor
  · exact forall_congr' hnode
  · simp only [reports_iff_requires h habsent]
    exact forall_congr' hnode

/-- A schema that declares a property to be read-only. -/
def lockedId : Value :=
  .object [(.str "properties", .object [(.str "id", .object [(.str "readOnly", .bool true)])])]

/-- A schema that requires what its branch declares to be read-only. -/
def branchedId : Value :=
  .object [(.str "allOf", .list [lockedId]), (.str "required", .list [.str "id"])]

-- What a branch hides is required nowhere in a request.
theorem branched_id_not_required : ∃ prepared, preparedFor .request branchedId = .ok prepared ∧
    Value.lookup [] "id" = none ∧ (∀ path, ¬ Requires prepared path "id") ∧
    ∀ path, ¬ Reports prepared path "id" (.object []) := by
  have hprepared : preparedFor .request branchedId = .ok
      (.object [(.str "allOf", .list [lockedId]), (.str "required", .list [])]) := rfl
  have hidden : HiddenWhereRequired .readOnly branchedId "id" := by
    intro path _
    exact ⟨[0], ⟨_, _, _, rfl, rfl, List.mem_cons_self, rfl⟩, List.nil_prefix⟩
  have h := nowhere_required_iff hprepared (show Value.lookup [] "id" = none from rfl)
  exact ⟨_, hprepared, rfl, h.1.2 hidden, h.2.2 hidden⟩

/-- The same schema with its branch put into a further `allOf`. -/
def groupedId : Value :=
  .object [(.str "allOf", .list [.object [(.str "allOf", .list [lockedId])]]),
    (.str "required", .list [.str "id"])]

-- What a branch of a branch hides is still required, and a request without it is refused.
theorem grouped_id_still_required : Hides .readOnly groupedId [0, 0] "id" ∧
    (∃ prepared, preparedFor .request groupedId = .ok prepared ∧ Requires prepared [] "id") ∧
    ∃ check, Engine.compileSchema ⟨false, false⟩ none .request groupedId = .ok check ∧
      check (.object []) = .ok ⟨false, [.here (.missing (.str "id"))]⟩ := by
  have hprepared : preparedFor .request groupedId = .ok groupedId := rfl
  refine ⟨⟨_, _, _, rfl, rfl, List.mem_cons_self, rfl⟩, ⟨groupedId, hprepared, ?_⟩, ?_⟩
  · exact ⟨_, rfl, List.mem_cons_self⟩
  · exact ⟨_, rfl, rfl⟩

end ApiContract.Schema
