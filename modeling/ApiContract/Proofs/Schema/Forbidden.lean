import ApiContract.Proofs.Schema.Required
import ApiContract.Proofs.Schema.Visibility

/-!
# Properties that are forbidden and required

A flag forbids a property as soon as its value is truthy, but only the truth value itself takes the
name of the property out of what is required. A property whose flag has another truthy value can
therefore be forbidden and required at once, and then no object is valid in that direction, unless the
property's schema declares a draft, which knows no flags.
-/

namespace ApiContract.Schema

/-- The flag of the property's schema that hides in the direction has a value that refuses
everything. -/
def Forbids (direction : Direction) (property : Value) : Prop :=
  ∃ flagged, property.member? (Visibility.hiddenIn direction).keyword = some flagged ∧
    ∀ ctx : Context, ctx.direction = direction →
      Rule.visibility ctx (Visibility.hiddenIn direction) flagged =
        .violated (.hidden (Visibility.hiddenIn direction) direction)

variable {direction : Direction} {fields properties : Fields} {property prepared : Value}
  {name : String}

-- Every truthy value of the flag does.
theorem forbids_iff :
    Forbids direction property ↔ ∃ flagged,
      property.member? (Visibility.hiddenIn direction).keyword = some flagged ∧
        flagged.truthy = true := by
  have hallowed := (Visibility.eq_hiddenIn_iff _ direction).1 rfl
  constructor
  · rintro ⟨flagged, hflagged, hrefuses⟩
    refine ⟨flagged, hflagged, ?_⟩
    by_contra hfalsy
    have hrule := hrefuses ⟨.v30, direction, .null, none⟩ rfl
    simp [Rule.visibility, Outcome.require, hfalsy, Outcome.valid, Outcome.violated] at hrule
  · rintro ⟨flagged, hflagged, htruthy⟩
    refine ⟨flagged, hflagged, ?_⟩
    rintro ctx rfl
    simp [Rule.visibility, Outcome.require, htruthy, hallowed]

-- Only the truth value hides, among properties whose names are distinct.
theorem hides_root_iff (hproperties : Value.lookup fields "properties" = some (.object properties))
    (hdistinct : Fields.distinct properties = true)
    (hproperty : Value.lookup properties name = some property) {flag : Visibility} :
    Hides flag (.object fields) [] name ↔ property.member? flag.keyword = some (.bool true) := by
  rw [hides_nil_iff, mem_hiddenNames_iff]
  constructor
  · rintro ⟨properties', property', hproperties', hmem, hflag⟩
    rw [show Value.member? "properties" (.object fields) = _ from hproperties] at hproperties'
    cases hproperties'
    rw [Value.lookup_of_mem hdistinct hmem] at hproperty
    cases hproperty
    exact hflag
  · intro hflag
    exact ⟨properties, property, hproperties, Value.mem_of_lookup hproperty, hflag⟩

/-! ## Objects -/

-- Names are listed where a schema requires any.
theorem lookup_required {v : Value} (h : v ∈ requiredNames fields) :
    Value.lookup fields "required" = some (.list (requiredNames fields)) := by
  unfold requiredNames at h ⊢
  split at h
  · rename_i names hnames
    rw [hnames]
  · cases h

-- What the root of a prepared schema requires, every valid object has.
theorem hasField_of_requires {ctx : Context} {flag : Visibility} {schema : Value} {depth : Nat}
    {members : Fields} (hprepared : prepare flag [] schema = .ok prepared)
    (hvalid : Judge.apply (checkFields ctx depth) prepared (.object members) = .valid)
    (hdraft : ctx.draft = none) (hrequires : Requires prepared [] name) :
    (Value.lookup members name).isSome = true := by
  by_contra habsent
  rw [Option.not_isSome_iff_eq_none] at habsent
  obtain ⟨node, hnode, hreport⟩ := (reports_iff_requires hprepared habsent).2 hrequires
  cases prepared with
  | scalar s => cases hnode
  | list items => cases hnode
  | object kept =>
    obtain rfl : kept = node := Option.some.inj hnode
    have hkeyword : ctx.keyword? "required" = some .required := keyword?_shared hdraft rfl
    have hrule : Rule.required (.list (requiredNames kept)) (.object members) = .valid :=
      checkKeyword_of_checkFields hvalid (lookup_required (requires_nil_iff.1 hrequires)) hkeyword
    rw [hrule] at hreport
    cases hreport

/-- A property is forbidden in a direction and still required by the prepared schema exactly when the
schema requires it, its flag has a truthy value other than the truth value, and no branch of the
schema declares it with the truth value. Every object is refused in that direction then, if the
property's schema declares no draft. -/
theorem forbidden_and_required_iff
    (hproperties : Value.lookup fields "properties" = some (.object properties))
    (hdistinct : Fields.distinct properties = true)
    (hproperty : Value.lookup properties name = some property)
    (hprepared : preparedFor direction (.object fields) = .ok prepared) :
    (Forbids direction property ∧ Requires prepared [] name ↔
      Requires (.object fields) [] name ∧
      (∃ flagged, property.member? (Visibility.hiddenIn direction).keyword = some flagged ∧
        flagged.truthy = true ∧ flagged ≠ .bool true) ∧
      ∀ i, ¬ Hides (Visibility.hiddenIn direction) (.object fields) [i] name) ∧
    (Forbids direction property → Requires prepared [] name → Undeclared property →
      ∀ options version check,
        Engine.compileSchema options version direction (.object fields) = .ok check →
        ∀ members answer, check (.object members) = .ok answer → answer.valid = false) := by
  constructor
  · rw [requires_prepared_iff hprepared, forbids_iff, forall_origin_nil_iff,
      hides_root_iff hproperties hdistinct hproperty]
    constructor
    · rintro ⟨⟨flagged, hflagged, htruthy⟩, hrequires, -, hroot, hbranches⟩
      refine ⟨hrequires, ⟨flagged, hflagged, htruthy, ?_⟩, hbranches⟩
      rintro rfl
      exact hroot hflagged
    · rintro ⟨hrequires, ⟨flagged, hflagged, htruthy, hne⟩, hbranches⟩
      refine ⟨⟨flagged, hflagged, htruthy⟩, hrequires, List.not_mem_nil, ?_, hbranches⟩
      intro hroot
      rw [hflagged] at hroot
      exact hne (Option.some.inj hroot)
  · intro hforbids hrequires hundeclared options version check hcheck members answer hanswer
    obtain ⟨flagged, hflagged, htruthy⟩ := forbids_iff.1 hforbids
    obtain ⟨-, -, -, prepared', hprepared', rfl⟩ := Engine.compileSchema_eq_ok_iff.1 hcheck
    rw [hprepared] at hprepared'
    cases hprepared'
    by_contra hne
    have hvalid := (Engine.verdict_valid_iff hanswer).1 (by simpa using hne)
    -- The object has the property, because it is required, and its schema refuses the value.
    obtain ⟨v, hv⟩ := Option.isSome_iff_exists.1 (hasField_of_requires hprepared hvalid rfl hrequires)
    have hroot : Checked (Visibility.hiddenIn direction)
        ⟨Dialect.ofVersion version, direction, prepared, none⟩ (.object fields) (.object members) :=
      ⟨[], prepared, _, hprepared, hvalid⟩
    exact not_checked_of_truthy ⟨Dialect.ofVersion version, direction, prepared, none⟩ rfl
      hflagged htruthy (hroot.member rfl hproperties hproperty hv hundeclared)

/-- A schema that requires a property whose flag is a text. -/
def securedPin : Fields :=
  [(.str "properties", .object
      [(.str "pin", .object [(.str "writeOnly", .str "yes")]), (.str "id", .bool true)]),
    (.str "required", .list [.str "pin"])]

-- The property is forbidden in a response and still required.
theorem pin_forbidden_and_required : ∃ prepared,
    preparedFor .response (.object securedPin) = .ok prepared ∧
      Forbids .response (.object [(.str "writeOnly", .str "yes")]) ∧ Requires prepared [] "pin" := by
  have hprepared : preparedFor .response (.object securedPin) = .ok (.object securedPin) := rfl
  refine ⟨_, hprepared, (forbidden_and_required_iff rfl (by decide)
    (show Value.lookup _ "pin" = _ from rfl) hprepared).1.2 ⟨?_, ?_, ?_⟩⟩
  · exact ⟨_, rfl, List.mem_cons_self⟩
  · exact ⟨_, rfl, by decide, by decide⟩
  · rintro i ⟨_, _, _, hnode, -⟩
    cases hnode

/-- A schema that requires a property whose flag is a number. -/
def numberedId : Value :=
  .object [(.str "properties", .object [(.str "id", .object [(.str "readOnly", .int 1)])]),
    (.str "required", .list [.str "id"])]

-- A request without the property is refused, and one with it as well.
theorem numbered_id_refused_either_way :
    Forbids .request (.object [(.str "readOnly", .int 1)]) ∧
    (∃ prepared, preparedFor .request numberedId = .ok prepared ∧ Requires prepared [] "id") ∧
    ∃ check, Engine.compileSchema {} (some "3.0.3") .request numberedId = .ok check ∧
      check (.object []) = .ok ⟨false, [.here (.missing (.str "id"))]⟩ ∧
      check (.object [(.str "id", .int 5)]) =
        .ok ⟨false, [⟨[.member "id"], .hidden .readOnly .request⟩]⟩ := by
  let check : Check := fun v => Engine.verdict {} (Schema.check .v30 .request numberedId v)
  have hprepared : preparedFor .request numberedId = .ok numberedId := rfl
  have hdialect : Dialect.ofVersion (some "3.0.3") = .v30 := by decide +kernel
  have hcompile : Engine.compileSchema {} (some "3.0.3") .request numberedId = .ok check := by
    rw [Engine.compileSchema, hdialect]
    rfl
  refine ⟨forbids_iff.2 ⟨_, rfl, by decide⟩, ⟨numberedId, hprepared, ?_⟩, check, hcompile, ?_, ?_⟩
  · exact ⟨_, rfl, List.mem_cons_self⟩
  · rfl
  · rfl

end ApiContract.Schema
