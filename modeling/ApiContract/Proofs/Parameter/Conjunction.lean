import ApiContract.Proofs.Parameter.Prepared
import ApiContract.Proofs.Parameter.Validator
import ApiContract.Proofs.Schema.Objections

/-!
# The schema of a location is a conjunction

The parameters of a location are checked together, by one schema. Where no two of them have the same
property name, and what their schemas say does not depend on where they stand, the values are accepted
exactly when every parameter is met on its own: `ParameterValidator.accepts_iff_each_met`.
-/

namespace ApiContract

open Schema

variable {options : EngineOptions} {version : Option String} {d : Direction}

/-! ## A schema alone -/

/-- Check a value against a schema alone. -/
def SchemaUnit.checkAlone (engine : Engine (Except Failure)) (direction : Direction)
    (schema v : Value) : Except Failure PUnit := do
  (← SchemaUnit.compile engine direction schema).validate v

-- A unit accepts a value when what its check finds is valid.
theorem SchemaUnit.validate_eq_ok_iff {unit : SchemaUnit} {o : Outcome} {v : Value}
    (hcheck : unit.check v = Engine.verdict options o) : unit.validate v = .ok ⟨⟩ ↔ o = .valid := by
  unfold validate
  rw [hcheck]
  constructor
  · intro h
    obtain ⟨answer, hanswer, h⟩ := Result.bind_eq_ok_iff.1 h
    refine (Engine.verdict_valid_iff hanswer).1 ?_
    split at h
    · assumption
    · cases h
  · rintro rfl
    have hverdict : Engine.verdict options .valid = .ok ⟨true, []⟩ := by
      unfold Engine.verdict
      cases options.allErrors <;> rfl
    rw [hverdict]
    rfl

-- Unless something untyped is raised, a schema that can be prepared decides about a value as its
-- prepared form does.
theorem SchemaUnit.checkAlone_eq_ok_iff {schema prepared v : Value}
    (hschema : Engine.isSchema schema = true)
    (hproblems : options.strict = true → problems (Dialect.ofVersion version) schema = [])
    (hprepared : preparedFor d schema = .ok prepared)
    (htyped : ∀ fault, checkAlone (Engine.standard options version) d schema v ≠ stop fault) :
    checkAlone (Engine.standard options version) d schema v = .ok ⟨⟩ ↔
      Schema.check (Dialect.ofVersion version) d prepared v = .valid := by
  have hcompile : ∀ compiled, Engine.compileSchema options version d schema = compiled →
      checkAlone (Engine.standard options version) d schema v =
        compiled >>= fun check => validate ⟨schema, d, check⟩ v := by
    rintro compiled rfl
    simp only [checkAlone, SchemaUnit.compile, Engine.standard, bind_assoc, pure_bind]
  by_cases hbool : Dialect.ofVersion version = .v30 ∧ schema.isBool = true
  · have hstop : Engine.compileSchema options version d schema = stop .wrongShape := by
      unfold Engine.compileSchema
      dsimp only
      rw [hschema, if_neg (by decide), hprepared]
      simp only [if_pos hbool]
      split
      · rename_i hstrict
        rw [hproblems hstrict]
      · rfl
    exact absurd (hcompile _ hstop) (htyped .wrongShape)
  · rw [hcompile _ (Engine.compileSchema_eq_ok_iff.2
      ⟨hschema, hproblems, hbool, prepared, hprepared, rfl⟩)]
    exact validate_eq_ok_iff rfl

namespace Parameter

/-! ## What each parameter demands -/

/-- A value under the name with which it is compared. -/
def Naming.compared (naming : Naming) (f : Scalar × Value) : Scalar × Value :=
  if naming.caseInsensitive then (.str (Text.lower (Value.scalarText f.1)), f.2) else f

/-- The parameter has a schema, and a value is there for it. -/
def Brings (naming : Naming) (values : Fields) (p schema v : Value) : Prop :=
  schemaOf? p = some schema ∧
    ∃ name, propertyOf? naming p = some name ∧ (.str name, v) ∈ values.map naming.compared

/-- Is the value one of a parameter? -/
def Naming.declares (naming : Naming) (parameters : List Value) (f : Scalar × Value) : Bool :=
  parameters.any fun p => (propertyOf? naming p).any fun name => (naming.compared f).1 = .str name

/-- The values of a location meet what one parameter demands of them: a required one is there, unless
its schema hides it in the direction, and its schema alone accepts the value that is there. -/
structure IsMet (engine : Engine (Except Failure)) (d : Direction) (naming : Naming)
    (values : Fields) (p : Value) : Prop where
  present : ∀ name, propertyOf? naming p = some name → isRequired p = true →
    (∃ v, (.str name, v) ∈ values.map naming.compared) ∨
      ∃ schema, schemaOf? p = some schema ∧ isFlagged (Visibility.hiddenIn d) schema = true
  accepted : ∀ schema v, Brings naming values p schema v →
    SchemaUnit.checkAlone engine d schema v = .ok ⟨⟩

-- Only the values under its name matter to a parameter.
theorem IsMet.congr {engine : Engine (Except Failure)} {naming : Naming} {values others : Fields}
    {p : Value} (hsame : ∀ name v, propertyOf? naming p = some name →
      ((.str name, v) ∈ others.map naming.compared ↔ (.str name, v) ∈ values.map naming.compared))
    (h : IsMet engine d naming values p) : IsMet engine d naming others p := by
  constructor
  case present =>
    intro name hname hrequired
    exact (h.present name hname hrequired).imp_left
      fun ⟨v, hv⟩ => ⟨v, (hsame name v hname).2 hv⟩
  case accepted =>
    rintro schema v ⟨hschema, name, hname, hv⟩
    exact h.accepted schema v ⟨hschema, name, hname, (hsame name v hname).1 hv⟩

end Parameter

namespace ParameterValidator

open Parameter

variable {location : String} {naming : Naming} {kind : ErrorKind} {parameters : List Value}
  {validator : ParameterValidator} {values : Fields}

/-! ## What a validator is built from -/

-- The values are compared under their names before they are checked.
theorem validate_object (hcase : validator.caseInsensitive = naming.caseInsensitive)
    (hvalues : Fields.distinct (values.map naming.compared) = true) :
    validator.validate (.object values) = .ok ⟨⟩ ↔
      validator.unit.validate (.object (values.map naming.compared)) = .ok ⟨⟩ := by
  have hcompared : (if validator.caseInsensitive then lowerKeys values else values) =
      values.map naming.compared := by
    rw [hcase]
    unfold Naming.compared at hvalues ⊢
    cases hnaming : naming.caseInsensitive with
    | true =>
      simp only [hnaming, if_true] at hvalues ⊢
      exact Fields.ofPairs_of_distinct hvalues
    | false => simp
  rw [validate, candidate_object]
  show Except.mapError _ _ = _ ↔ _
  rw [Result.mapError_eq_ok_iff, hcompared]

/-- What a validator was built from: what its parameters were gathered into, and how that was prepared
for its check. -/
structure BuiltFrom (options : EngineOptions) (version : Option String) (d : Direction)
    (naming : Naming) (parameters : List Value) (g : Gathered) (members : Fields)
    (validator : ParameterValidator) : Prop where
  gathered : gather naming {} parameters = .ok g
  noProblems : options.strict = true → problems (Dialect.ofVersion version) g.schema = []
  prepared : prepareMembers (Visibility.hiddenIn d) g.properties = .ok members
  caseInsensitive : validator.caseInsensitive = naming.caseInsensitive
  check : ∀ v, validator.unit.check v = Engine.verdict options
    (Schema.check (Dialect.ofVersion version) d (.object (g.preparedFields d members)) v)

theorem exists_builtFrom
    (hbuild : build location naming kind parameters (Engine.standard options version) d =
      .ok validator) :
    ∃ g members, BuiltFrom options version d naming parameters g members validator := by
  simp only [build, Result.ofExcept_eq, Result.bind_eq_ok_iff, aggregate] at hbuild
  obtain ⟨_, ⟨g, hg, hschema⟩, unit, hunit, h⟩ := hbuild
  obtain rfl := Except.ok.inj hschema
  obtain rfl := Except.ok.inj h
  obtain ⟨check, hcheck, h⟩ := Result.bind_eq_ok_iff.1 hunit
  obtain rfl := Except.ok.inj h
  obtain ⟨-, hproblems, -, w, hw, rfl⟩ := Engine.compileSchema_eq_ok_iff.1
    (show Engine.compileSchema options version d g.schema = .ok check from hcheck)
  rw [preparedFor_schema] at hw
  cases hmembers : prepareMembers (Visibility.hiddenIn d) g.properties with
  | error f =>
    rw [hmembers] at hw
    cases hw
  | ok members =>
    rw [hmembers] at hw
    obtain rfl := Except.ok.inj hw
    exact ⟨g, members, hg, hproblems, hmembers, rfl, fun v => rfl⟩

namespace BuiltFrom

variable {g : Gathered} {members : Fields} {name : String} {schema prepared p v : Value}

-- Each property is that of one parameter.
theorem mem_properties_iff (h : BuiltFrom options version d naming parameters g members validator)
    (hnames : (parameters.filterMap (propertyOf? naming)).Nodup) :
    (.str name, schema) ∈ g.properties ↔
      ∃ p ∈ parameters, propertyOf? naming p = some name ∧ schemaOf? p = some schema := by
  rw [← lookup_gather_iff h.gathered hnames]
  exact ⟨Value.lookup_of_mem (distinct_gather h.gathered rfl), Value.mem_of_lookup⟩

-- It is found again in the prepared schema, and nothing else is.
theorem exists_prepared (h : BuiltFrom options version d naming parameters g members validator)
    (hschema : (.str name, schema) ∈ g.properties) :
    ∃ prepared, preparedFor d schema = .ok prepared ∧ (.str name, prepared) ∈ members := by
  obtain ⟨⟨key, prepared⟩, hmem, hkey, hprepared⟩ :=
    Related.exists_of_mem_left (prepareMembers_eq_ok h.prepared) hschema
  obtain rfl : Scalar.str name = key := hkey
  exact ⟨prepared, hprepared, hmem⟩

theorem exists_unprepared (h : BuiltFrom options version d naming parameters g members validator)
    (hprepared : (.str name, prepared) ∈ members) :
    ∃ schema, (.str name, schema) ∈ g.properties ∧ preparedFor d schema = .ok prepared := by
  obtain ⟨⟨key, schema⟩, hmem, hkey, hprepared⟩ :=
    Related.exists_of_mem_right (prepareMembers_eq_ok h.prepared) hprepared
  obtain rfl : key = Scalar.str name := hkey
  exact ⟨schema, hmem, hprepared⟩

-- A name is required in a direction when a parameter requires it whose schema does not hide it.
theorem mem_visible_iff (h : BuiltFrom options version d naming parameters g members validator)
    (hnames : (parameters.filterMap (propertyOf? naming)).Nodup) :
    name ∈ g.visible d ↔ ∃ p ∈ parameters, propertyOf? naming p = some name ∧
      isRequired p = true ∧ ¬ ∃ schema, schemaOf? p = some schema ∧
        isFlagged (Visibility.hiddenIn d) schema = true := by
  have hrequired : name ∈ g.required ↔
      ∃ p ∈ parameters, propertyOf? naming p = some name ∧ isRequired p = true := by
    rw [mem_required_gather h.gathered]
    simp
  have hhidden : name ∈ flaggedNames (Visibility.hiddenIn d) g.properties ↔
      ∃ p ∈ parameters, propertyOf? naming p = some name ∧ ∃ schema, schemaOf? p = some schema ∧
        isFlagged (Visibility.hiddenIn d) schema = true := by
    simp only [mem_flaggedNames_iff, h.mem_properties_iff hnames, isFlagged, beq_iff_eq]
    constructor
    · rintro ⟨schema, ⟨p, hp, hname, hschema⟩, hflag⟩
      exact ⟨p, hp, hname, schema, hschema, hflag⟩
    · rintro ⟨p, hp, hname, schema, hschema, hflag⟩
      exact ⟨schema, ⟨p, hp, hname, hschema⟩, hflag⟩
  have hvisible : name ∈ g.visible d ↔
      name ∈ g.required ∧ name ∉ flaggedNames (Visibility.hiddenIn d) g.properties := by
    simp [Gathered.visible]
  rw [hvisible, hrequired, hhidden]
  constructor
  · rintro ⟨⟨p, hp, hname, hp'⟩, hshown⟩
    exact ⟨p, hp, hname, hp', fun hflag => hshown ⟨p, hp, hname, hflag⟩⟩
  · rintro ⟨p, hp, hname, hp', hshown⟩
    refine ⟨⟨p, hp, hname, hp'⟩, ?_⟩
    rintro ⟨q, hq, hqname, hflag⟩
    rw [eq_of_propertyOf? hnames hq hp hqname hname] at hflag
    exact hshown hflag

-- Alone, the schema of a parameter decides as its property of the prepared schema does.
theorem checkAlone_iff (h : BuiltFrom options version d naming parameters g members validator)
    (hschema : (.str name, schema) ∈ g.properties) (hproper : Engine.isSchema schema = true)
    (hprepared : preparedFor d schema = .ok prepared)
    (htyped : ∀ fault,
      SchemaUnit.checkAlone (Engine.standard options version) d schema v ≠ stop fault) :
    SchemaUnit.checkAlone (Engine.standard options version) d schema v = .ok ⟨⟩ ↔
      Schema.check (Dialect.ofVersion version) d prepared v = .valid := by
  refine SchemaUnit.checkAlone_eq_ok_iff hproper (fun hstrict => ?_) hprepared htyped
  have hproperties : g.schema.member? "properties" = some (.object g.properties) := rfl
  exact problems_of_lookup (h.noProblems hstrict) hproperties (List.mem_map_of_mem hschema)

-- The values are checked property by property.
theorem validate_iff (h : BuiltFrom options version d naming parameters g members validator)
    (hnames : (parameters.filterMap (propertyOf? naming)).Nodup)
    (halone : ∀ p ∈ parameters, ∀ schema v, Brings naming values p schema v → StandsAlone schema)
    (hvalues : Fields.distinct (values.map naming.compared) = true) :
    validator.validate (.object values) = .ok ⟨⟩ ↔
      (∀ name prepared, (.str name, prepared) ∈ members →
        ∀ v, (.str name, v) ∈ values.map naming.compared →
          Schema.check (Dialect.ofVersion version) d prepared v = .valid) ∧
      ∀ name ∈ g.visible d, ∃ v, (.str name, v) ∈ values.map naming.compared := by
  have hvalue : ∀ {name v}, Value.lookup (values.map naming.compared) name = some v ↔
      (.str name, v) ∈ values.map naming.compared :=
    ⟨Value.mem_of_lookup, Value.lookup_of_mem hvalues⟩
  have hfield : ∀ name, Value.hasField (values.map naming.compared) name = true ↔
      ∃ v, (.str name, v) ∈ values.map naming.compared := by
    intro name
    rw [Value.hasField, Option.isSome_iff_exists]
    exact exists_congr fun v => hvalue
  have hprepared : ∀ name prepared, (.str name, prepared) ∈ members →
      ∀ v, Value.lookup (values.map naming.compared) name = some v → StandsAlone prepared := by
    intro name prepared hmem v hv
    obtain ⟨schema, hschema, hprepare⟩ := h.exists_unprepared hmem
    obtain ⟨p, hp, hname, hp'⟩ := (h.mem_properties_iff hnames).1 hschema
    exact (halone p hp schema v ⟨hp', name, hname, hvalue.1 hv⟩).prepare hprepare
  rw [validate_object h.caseInsensitive hvalues, SchemaUnit.validate_eq_ok_iff (h.check _),
    check_preparedFields_iff hprepared]
  simp only [hvalue, hfield]

end BuiltFrom

-- The values of a location are accepted exactly when each parameter is met.
theorem validate_iff_isMet
    (hbuild : build location naming kind parameters (Engine.standard options version) d =
      .ok validator)
    (hnames : (parameters.filterMap (propertyOf? naming)).Nodup)
    (hstands : ∀ p ∈ parameters, ∀ schema v, Brings naming values p schema v → StandsAlone schema)
    (hvalues : Fields.distinct (values.map naming.compared) = true)
    (htyped : ∀ p ∈ parameters, ∀ schema v, Brings naming values p schema v →
      ∀ fault, SchemaUnit.checkAlone (Engine.standard options version) d schema v ≠ stop fault) :
    validator.validate (.object values) = .ok ⟨⟩ ↔
      ∀ p ∈ parameters, IsMet (Engine.standard options version) d naming values p := by
  obtain ⟨g, members, h⟩ := exists_builtFrom hbuild
  have halone : ∀ p ∈ parameters, ∀ schema v, Brings naming values p schema v →
      ∀ prepared, preparedFor d schema = .ok prepared →
      (SchemaUnit.checkAlone (Engine.standard options version) d schema v = .ok ⟨⟩ ↔
        Schema.check (Dialect.ofVersion version) d prepared v = .valid) := by
    intro p hp schema v hbrings prepared hprepared
    have ⟨hschema, name, hname, _⟩ := hbrings
    exact h.checkAlone_iff ((h.mem_properties_iff hnames).2 ⟨p, hp, hname, hschema⟩)
      (Option.filter_eq_some_iff.1 hschema).2 hprepared (htyped p hp schema v hbrings)
  rw [h.validate_iff hnames hstands hvalues]
  constructor
  · rintro ⟨haccepted, hpresent⟩ p hp
    constructor
    case present =>
      intro name hname hrequired
      by_cases hflag : ∃ schema, schemaOf? p = some schema ∧
          isFlagged (Visibility.hiddenIn d) schema = true
      · exact .inr hflag
      · exact .inl (hpresent name
          ((h.mem_visible_iff hnames).2 ⟨p, hp, hname, hrequired, hflag⟩))
    case accepted =>
      intro schema v hbrings
      have ⟨hschema, name, hname, hv⟩ := hbrings
      obtain ⟨prepared, hprepared, hmem⟩ :=
        h.exists_prepared ((h.mem_properties_iff hnames).2 ⟨p, hp, hname, hschema⟩)
      exact (halone p hp schema v hbrings prepared hprepared).2 (haccepted name prepared hmem v hv)
  · intro hmet
    constructor
    · intro name prepared hmem v hv
      obtain ⟨schema, hschema, hprepared⟩ := h.exists_unprepared hmem
      obtain ⟨p, hp, hname, hp'⟩ := (h.mem_properties_iff hnames).1 hschema
      have hbrings : Brings naming values p schema v := ⟨hp', name, hname, hv⟩
      exact (halone p hp schema v hbrings prepared hprepared).1 ((hmet p hp).accepted schema v hbrings)
    · intro name hvisible
      obtain ⟨p, hp, hname, hrequired, hshown⟩ := (h.mem_visible_iff hnames).1 hvisible
      exact ((hmet p hp).present name hname hrequired).resolve_right hshown

/-! ### Values that no parameter declares -/

theorem mem_declared_iff {p v : Value} {name : String} (hp : p ∈ parameters)
    (hname : propertyOf? naming p = some name) :
    (.str name, v) ∈ (values.filter (naming.declares parameters)).map naming.compared ↔
      (.str name, v) ∈ values.map naming.compared := by
  simp only [List.mem_map, List.mem_filter]
  constructor
  · rintro ⟨f, ⟨hf, -⟩, heq⟩
    exact ⟨f, hf, heq⟩
  · rintro ⟨f, hf, heq⟩
    refine ⟨f, ⟨hf, ?_⟩, heq⟩
    have hsame : ((naming.compared f).1 = .str name) = True := by rw [heq]; exact eq_self _
    exact List.any_eq_true.2 ⟨p, hp, by simp [hname, hsame]⟩

theorem brings_declared_iff {p schema v : Value} (hp : p ∈ parameters) :
    Brings naming (values.filter (naming.declares parameters)) p schema v ↔
      Brings naming values p schema v :=
  and_congr_right' <| exists_congr fun _ => and_congr_right fun hname => mem_declared_iff hp hname

theorem isMet_declared_iff {engine : Engine (Except Failure)} {p : Value} (hp : p ∈ parameters) :
    IsMet engine d naming (values.filter (naming.declares parameters)) p ↔
      IsMet engine d naming values p :=
  ⟨IsMet.congr fun _ _ hname => (mem_declared_iff hp hname).symm,
    IsMet.congr fun _ _ hname => mem_declared_iff hp hname⟩

/-- A limit is at least one. -/
def limitSchema : Value := .object [(.str "type", .str "integer"), (.str "minimum", .int 1)]

/-- A limit has to be given; a trace would have to be, but the server alone writes it. -/
def limitHeaders : List Value :=
  [.object [(.str "name", .str "X-Limit"), (.str "required", .bool true), (.str "schema", limitSchema)],
   .object [(.str "name", .str "X-Trace"), (.str "required", .bool true), (.str "schema", .object
      [(.str "type", .str "string"), (.str "readOnly", .bool true)])],
   .object [(.str "name", .str "content-type"), (.str "required", .bool true)]]

/-- A key that the server alone writes, in a schema that declares a draft. -/
def draftedKey : Value :=
  .object [(.str "$schema", .str "http://json-schema.org/draft-07/schema#"),
    (.str "readOnly", .bool true)]

/-- A header with the key. -/
def draftedHeader : Value := .object [(.str "name", .str "X"), (.str "schema", draftedKey)]

end ParameterValidator

end ApiContract
