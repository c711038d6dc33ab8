import ApiContract.Proofs.Result
import ApiContract.Proofs.Schema.Objections
import ApiContract.Schema.Engine
import Mathlib.Logic.Relation

/-!
# Strict mode

In strict mode a schema is refused exactly when there is something in it to object to, and the error
names each such place once. What a schema holds as data and how the members of an object of schemas are
called decides nothing.
-/

namespace ApiContract.Schema

variable {d : Dialect} {before after : Fields} {key : Scalar} {name : String} {v w s t : Value}

/-! ## Edits without effect -/

/-- The names under which a schema holds values as examples or for comparison. -/
def instanceNames : List String := ["enum", "const", "default", "example"]

/-- A schema results from another one by exchanging what stands under the name of an instance or of an
extension, or by giving the members of an object of schemas other names; both also in a schema inside
it. -/
inductive Edited : Value → Value → Prop
  | data {before after : Fields} {name : String} {v w : Value}
      (holds : name ∈ instanceNames ∨ name.startsWith "x-" = true) :
      Edited (.object (before ++ (.str name, v) :: after))
        (.object (before ++ (.str name, w) :: after))
  | names {before after members others : Fields} {name : String}
      (holds : Place.ofName name = .schemaMap) (same : members.map (·.2) = others.map (·.2)) :
      Edited (.object (before ++ (.str name, .object members) :: after))
        (.object (before ++ (.str name, .object others) :: after))
  | inside {before after : Fields} {key : Scalar} {v w s t : Value} {front back : List Value}
      (left : (Place.ofKey key).schemas v = front ++ s :: back)
      (right : (Place.ofKey key).schemas w = front ++ t :: back) (edited : Edited s t) :
      Edited (.object (before ++ (key, v) :: after)) (.object (before ++ (key, w) :: after))

theorem Edited.symm (h : Edited s t) : Edited t s := by
  induction h with
  | data holds => exact .data holds
  | names holds same => exact .names holds same.symm
  | inside left right _ ih => exact .inside right left ih

-- Under the name of an instance or of an extension there are neither schemas nor a format.
theorem place_of_data (h : name ∈ instanceNames ∨ name.startsWith "x-" = true) :
    Place.ofName name = .data ∧ name ≠ "format" := by
  have hplain : ∀ other ∈ "format" :: placeNames,
      other ∉ instanceNames ∧ other.startsWith "x-" = false := by decide +kernel
  have hother : name ∉ "format" :: placeNames := by
    intro hmem
    obtain ⟨hinstance, hextension⟩ := hplain name hmem
    rcases h with h | h
    · exact hinstance h
    · rw [hextension] at h
      cases h
  rw [List.mem_cons, not_or] at hother
  exact ⟨by_contra fun hplace => hother.2 (mem_placeNames_of_place hplace), hother.1⟩

theorem Objection.of_ne_format {cause : String → Cause} (h : Objection d name v cause)
    (hname : name ≠ "format") : Objection d name w cause := by
  cases h with
  | keyword unknown unlisted plain => exact .keyword unknown unlisted plain
  | format => exact absurd rfl hname

theorem lookup_append_cons : Value.lookup (before ++ (key, v) :: after) name =
    (Value.lookup before name).or (if key = .str name then some v else Value.lookup after name) := by
  rw [Value.lookup, List.lookup_append, ← Fields.lookup_cons]
  rfl

-- When the value of a field is exchanged, a lookup finds what it has found or the two values.
theorem lookup_exchange {u : Value} (h : Value.lookup (before ++ (key, v) :: after) name = some u) :
    Value.lookup (before ++ (key, w) :: after) name = some u ∨
      key = .str name ∧ u = v ∧ Value.lookup (before ++ (key, w) :: after) name = some w := by
  rw [lookup_append_cons] at h ⊢
  cases hbefore : Value.lookup before name with
  | some found =>
    rw [hbefore] at h
    exact Or.inl h
  | none =>
    rw [hbefore, Option.none_or] at h
    rw [Option.none_or]
    by_cases hkey : key = .str name
    · rw [if_pos hkey] at h ⊢
      exact Or.inr ⟨hkey, (Option.some.inj h).symm, rfl⟩
    · rw [if_neg hkey] at h ⊢
      exact Or.inl h

theorem mem_exchange {f : Scalar × Value} (h : f ∈ before ++ (key, v) :: after) :
    f ∈ before ++ (key, w) :: after ∨ f = (key, v) := by
  rcases List.mem_append.1 h with hbefore | hmem
  · exact Or.inl (List.mem_append_left _ hbefore)
  · rcases List.mem_cons.1 hmem with heq | hafter
    · exact Or.inr heq
    · exact Or.inl (List.mem_append_right _ (List.mem_cons_of_mem _ hafter))

-- An objection stays when a field is exchanged that has no part in it.
theorem HasObjection.exchange (hformat : key ≠ .str "format")
    (hinner : ∀ s ∈ (Place.ofKey key).schemas v, HasObjection d s →
      ∃ t ∈ (Place.ofKey key).schemas w, HasObjection d t)
    (h : HasObjection d (.object (before ++ (key, v) :: after))) :
    HasObjection d (.object (before ++ (key, w) :: after)) := by
  rw [hasObjection_object_iff] at h ⊢
  rcases h with ⟨name, u, cause, hmem, hobjection⟩ | ⟨name, u, hu, s, hs, hobjection⟩
  · left
    rcases mem_exchange hmem with hmem | heq
    · exact ⟨name, u, cause, hmem, hobjection⟩
    · cases heq
      refine ⟨name, w, cause, List.mem_append_right _ List.mem_cons_self, ?_⟩
      exact hobjection.of_ne_format fun hname => hformat (hname ▸ rfl)
  · right
    rcases lookup_exchange (w := w) hu with hsame | ⟨rfl, rfl, hw⟩
    · exact ⟨name, u, hsame, s, hs, hobjection⟩
    · obtain ⟨t, ht, hinside⟩ := hinner s hs hobjection
      exact ⟨name, w, hw, t, ht, hinside⟩

-- What an edit exchanges has no part in any objection.
theorem Edited.hasObjection (h : Edited s t) (hs : HasObjection d s) : HasObjection d t := by
  induction h with
  | @data before after name v w holds =>
    obtain ⟨hplace, hformat⟩ := place_of_data holds
    refine hs.exchange (fun heq => hformat (Scalar.str.inj heq)) fun s hmem => ?_
    rw [Place.ofKey, hplace, Place.schemas_data] at hmem
    cases hmem
  | @names before after members others name holds same =>
    refine hs.exchange ?_ fun s hmem hobjection => ⟨s, ?_, hobjection⟩
    · rintro heq
      cases heq
      cases holds
    · rw [Place.ofKey, holds, Place.schemas] at hmem ⊢
      rwa [← same]
  | @inside before after key v w s t front back left right edited ih =>
    refine hs.exchange ?_ fun s' hmem hobjection => ?_
    · rintro rfl
      have hnone : (Place.ofKey (.str "format")).schemas v = [] := Place.schemas_data v
      rw [hnone] at left
      simp at left
    · rw [left] at hmem
      rw [right]
      simp only [List.mem_append, List.mem_cons] at hmem ⊢
      rcases hmem with hmem | rfl | hmem
      · exact ⟨s', Or.inl hmem, hobjection⟩
      · exact ⟨t, Or.inr (Or.inl rfl), ih hobjection⟩
      · exact ⟨s', Or.inr (Or.inr hmem), hobjection⟩

theorem hasObjection_iff_of_edits (h : Relation.ReflTransGen Edited s t) :
    HasObjection d s ↔ HasObjection d t := by
  induction h with
  | refl => rfl
  | tail _ hedit ih => exact ih.trans ⟨hedit.hasObjection, hedit.symm.hasObjection⟩

/-! ## Refused schemas -/

/-- Compiling the value ends with an error about a schema. -/
def Refused (options : EngineOptions) (version : Option String) (direction : Direction)
    (schema : Value) : Prop :=
  ∃ e, Engine.compileSchema options version direction schema = .error (.contract e) ∧
    e.kind = .schemaCompile

section

variable {options : EngineOptions} {version : Option String} {direction : Direction}
  {schema : Value} {e : ContractError}

-- Of what can be a schema, compiling refuses in strict mode what has problems, and names them.
theorem compileSchema_eq_refusal_iff (hstrict : options.strict = true)
    (hschema : Engine.isSchema schema = true) :
    Engine.compileSchema options version direction schema = .error (.contract e) ↔
      ∃ first rest, problems (Dialect.ofVersion version) schema = first :: rest ∧
        e = .strictProblems first rest := by
  unfold Engine.compileSchema
  simp only [hschema, hstrict, Bool.not_true, Bool.false_eq_true, if_false, if_true]
  cases problems (Dialect.ofVersion version) schema with
  | cons first rest =>
    constructor
    · intro h
      cases h
      exact ⟨first, rest, rfl, rfl⟩
    · rintro ⟨_, _, heq, rfl⟩
      cases heq
      rfl
  | nil =>
    refine iff_of_false (fun h => ?_) nofun
    -- Without problems only a fault can stop the preparation.
    cases hprepared : preparedFor direction schema with
    | error f =>
      rw [hprepared] at h
      cases h
    | ok prepared =>
      rw [hprepared] at h
      by_cases hdialect : Dialect.ofVersion version = .v30 ∧ schema.isBool = true
      · simp only [if_pos hdialect] at h
        cases h
      · simp only [if_neg hdialect] at h
        cases h

theorem refused_iff (hstrict : options.strict = true) (hschema : Engine.isSchema schema = true) :
    Refused options version direction schema ↔
      HasObjection (Dialect.ofVersion version) schema := by
  rw [← not_iff_not, ← problems_eq_nil_iff]
  simp only [Refused, compileSchema_eq_refusal_iff hstrict hschema]
  constructor
  · intro hnot
    cases hproblems : problems (Dialect.ofVersion version) schema with
    | nil => rfl
    | cons first rest => exact absurd ⟨_, ⟨first, rest, hproblems, rfl⟩, rfl⟩ hnot
  · rintro hnil ⟨e, ⟨first, rest, hproblems, -⟩, -⟩
    rw [hnil] at hproblems
    cases hproblems

end

/-- The error names each place of a schema to which strict mode objects, once and in its message the
first of them. -/
structure NamesEachOnce (d : Dialect) (schema : Value) (e : ContractError) : Prop where
  kind_eq : e.kind = .schemaCompile
  code_eq : e.code = 500
  location_eq : e.location = "schema"
  message : ∃ first, e.violations.head? = some first ∧
    e.message = "Strict mode rejected schema: " ++ first.message
  once : ∃ places : List (Position × String), places.Nodup ∧
    (∀ place, place ∈ places ↔ ∃ cause, ObjectsAt d schema place cause) ∧
    List.Forall₂ (ObjectsFrom d "#" schema) places e.violations

/-- In strict mode, compiling an object refuses it as a schema exactly when there is something to
object to: at a position that is reached from the schema through the names under which schemas stand,
singly, in lists or in objects, a field whose name is no keyword of the dialect, no annotation and no
extension, or whose text is no format of the dialect. The error names each such field once, at the
pointer to its schema, and its message quotes the first one. There is no other error about a schema.
Whatever is exchanged under the name of an instance or of an extension, and however the members of
objects of schemas are called, the schema is refused as before or not at all. -/
theorem strict_mode_refuses_iff {options : EngineOptions} (hstrict : options.strict = true)
    {fields : Fields} (hkeyed : (Value.object fields).wellKeyed = true) (version : Option String)
    (direction : Direction) :
    (Refused options version direction (.object fields) ↔
      ∃ place cause, ObjectsAt (Dialect.ofVersion version) (.object fields) place cause) ∧
    (∀ e, Engine.compileSchema options version direction (.object fields) = .error (.contract e) →
      NamesEachOnce (Dialect.ofVersion version) (.object fields) e) ∧
    ∀ others, Relation.ReflTransGen Edited (.object fields) (.object others) →
      (Refused options version direction (.object fields) ↔
        Refused options version direction (.object others)) := by
  refine ⟨refused_iff hstrict rfl, fun e he => ?_, fun others hedits => ?_⟩
  · obtain ⟨first, rest, hproblems, rfl⟩ := (compileSchema_eq_refusal_iff hstrict rfl).1 he
    obtain ⟨places, hnodup, hplaces, hnamed⟩ := exists_places (d := Dialect.ofVersion version) hkeyed
    rw [hproblems] at hnamed
    exact ⟨rfl, rfl, rfl, ⟨first, rfl, rfl⟩, places, hnodup, hplaces, hnamed⟩
  · exact (refused_iff hstrict rfl).trans
      ((hasObjection_iff_of_edits hedits).trans (refused_iff hstrict rfl).symm)

/-- A property and an extension with the same odd name; below the property is a format that no dialect
knows. -/
def taggedThing : Fields :=
  [(.str "type", .str "object"), (.str "x-note", .object [(.str "odd", .int 1)]),
    (.str "properties", .object [(.str "odd", .object
      [(.str "items", .list [.bool true, .object [(.str "format", .str "odd")]])])])]

/-- The same with the property called otherwise and the extension left empty. -/
def plainThing : Fields :=
  [(.str "type", .str "object"), (.str "x-note", .null),
    (.str "properties", .object [(.str "even", .object
      [(.str "items", .list [.bool true, .object [(.str "format", .str "odd")]])])])]

-- Both are refused for the sake of the format.
theorem taggedThing_refused : (Value.object taggedThing).wellKeyed = true ∧
    Refused ⟨false, true⟩ (some "3.1.0") .request (.object taggedThing) ∧
    Refused ⟨false, true⟩ (some "3.1.0") .request (.object plainThing) := by
  have hkeyed : (Value.object taggedThing).wellKeyed = true := by decide
  have hdialect : Dialect.ofVersion (some "3.1.0") = .v31 := by decide +kernel
  have hobjects : ObjectsAt .v31 (.object taggedThing)
      ([("properties", 0), ("items", 1)], "format") (.unknownFormat "odd") :=
    ⟨_, _, rfl, List.mem_cons_self, .format (by decide)⟩
  have hextension : Edited (.object taggedThing) _ :=
    @Edited.data [(.str "type", .str "object")] _ "x-note" _ .null (Or.inr (by decide +kernel))
  have hedits : Relation.ReflTransGen Edited (.object taggedThing) (.object plainThing) :=
    (Relation.ReflTransGen.single hextension).tail
      (@Edited.names [(.str "type", .str "object"), (.str "x-note", .null)] [] _ _ "properties"
        (by decide) rfl)
  obtain ⟨hrefused, -, hedited⟩ := strict_mode_refuses_iff
    (show (⟨false, true⟩ : EngineOptions).strict = true from rfl) hkeyed (some "3.1.0") .request
  rw [hdialect] at hrefused
  have hthing : Refused ⟨false, true⟩ (some "3.1.0") .request (.object taggedThing) :=
    hrefused.2 ⟨_, _, hobjects⟩
  exact ⟨hkeyed, hthing, (hedited plainThing hedits).1 hthing⟩

end ApiContract.Schema
