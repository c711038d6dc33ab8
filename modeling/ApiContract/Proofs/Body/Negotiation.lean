import ApiContract.Proofs.Body.Entries
import Mathlib.Data.List.Nodup
import Mathlib.Data.List.Perm.Basic
import Mathlib.Data.List.TakeWhile

/-!
# Content negotiation

A content type is served by the most specific entry that a content map declares for it: the entry for
exactly that type, else the one for all types with the same main type, else the one for all types.
Without a content type it is the entry for all types, else the only one. Which entry serves does not
depend on the order of the entries, as long as no two of them have one normalized pattern.
-/

namespace ApiContract

/-! ## Blank texts -/

namespace Text

-- What is dropped from the front of a list is blank, so that only blanks drop out altogether.
theorem forall_mem_trimStart_iff {cs : List Char} :
    (∀ c ∈ trimStart cs, isBlank c = true) ↔ ∀ c ∈ cs, isBlank c = true := by
  constructor
  · intro h c hc
    rw [← List.takeWhile_append_dropWhile (p := isBlank) (l := cs)] at hc
    rcases List.mem_append.1 hc with hc | hc
    · exact List.mem_takeWhile_imp hc
    · exact h c hc
  · intro h c hc
    exact h c ((List.dropWhile_sublist isBlank).subset hc)

-- Nothing is left of a text that is trimmed exactly when it is blank.
theorem trim_eq_empty_iff {s : String} : trim s = "" ↔ ∀ c ∈ s.toList, isBlank c = true := by
  have hnil : ∀ cs, trimStart cs = [] ↔ ∀ c ∈ cs, isBlank c = true := fun cs =>
    List.dropWhile_eq_nil_iff
  rw [← forall_mem_trimStart_iff, trim, String.ofList_eq_empty_iff, trimEnd,
    List.reverse_eq_nil_iff, hnil]
  simp only [List.mem_reverse]

end Text

namespace MediaType

-- The normalized form of a blank text is empty.
theorem normalize_of_blank {s : String} (h : Text.trim s = "") : normalize s = "" := by
  have hbefore : Text.trim (before ';' s) = "" := by
    rw [Text.trim_eq_empty_iff, before, String.toList_ofList]
    intro c hc
    exact Text.trim_eq_empty_iff.1 h c ((List.takeWhile_sublist _).subset hc)
  rw [normalize, hbefore]
  rfl

/-- The patterns that can serve a content type, the most specific one first. -/
def preferences (contentType : String) : List String :=
  [normalize contentType, mainPattern (normalize contentType), wildcard]

end MediaType

namespace BodyValidator

/-! ## The entry that serves -/

/-- The first entry that a content map declares under a normalized pattern, with its schema. -/
def entryFor? (content : Value) (pattern : String) : Option (String × Value) :=
  (declaredEntries content).find? fun entry => MediaType.normalize entry.1 == pattern

/-- The normalized patterns of a content map, each of them once. -/
def declaredPatterns (content : Value) : List String :=
  (firstOfEach (fun entry => MediaType.normalize entry.1) (declaredEntries content)).map
    fun entry => MediaType.normalize entry.1

/-- The normalized pattern of a content map that has a single one. -/
def onlyPattern? (content : Value) : Option String :=
  match declaredPatterns content with
  | [pattern] => some pattern
  | _ => none

/-- The patterns that can serve a body without a content type: the one for all types, then the only
one. -/
def defaultPreferences (content : Value) : List String :=
  MediaType.wildcard :: (onlyPattern? content).toList

/-- The first of the patterns that is declared serves, by the unit of the first entry that is declared
under it. Where none is declared, nothing serves. -/
inductive Serves (engine : Engine (Except Failure)) (direction : Direction) (content : Value) :
    List String → Option (String × SchemaUnit) → Prop
  | nothing : Serves engine direction content [] none
  | declared {pattern : String} {rest : List String} {written : String} {schema : Value}
      {unit : SchemaUnit} (hentry : entryFor? content pattern = some (written, schema))
      (hunit : SchemaUnit.compile engine direction schema = .ok unit) :
      Serves engine direction content (pattern :: rest) (some (pattern, unit))
  | undeclared {pattern : String} {rest : List String} {result : Option (String × SchemaUnit)}
      (hentry : entryFor? content pattern = none)
      (hrest : Serves engine direction content rest result) :
      Serves engine direction content (pattern :: rest) result

variable {engine : Engine (Except Failure)} {direction : Direction} {content : Value}
  {b : BodyValidator} {patterns : List String}

namespace Serves

theorem eq_none_iff {result : Option (String × SchemaUnit)}
    (h : Serves engine direction content patterns result) :
    result = none ↔ ∀ pattern ∈ patterns, entryFor? content pattern = none := by
  induction h with
  | nothing => simp
  | declared hentry hunit => simp [hentry]
  | undeclared hentry hrest ih => simp [hentry, ih]

-- Where the patterns have the same entries, the same unit serves.
theorem unique {other : Value} {result result' : Option (String × SchemaUnit)}
    (h : Serves engine direction content patterns result)
    (h' : Serves engine direction other patterns result')
    (hsame : ∀ pattern, entryFor? other pattern = entryFor? content pattern) : result' = result := by
  induction h with
  | nothing =>
    cases h'
    rfl
  | declared hentry hunit =>
    cases h' with
    | declared hentry' hunit' =>
      rw [hsame, hentry] at hentry'
      cases hentry'
      rw [hunit] at hunit'
      rw [Except.ok.inj hunit']
    | undeclared hentry' hrest' =>
      rw [hsame, hentry] at hentry'
      cases hentry'
  | undeclared hentry hrest ih =>
    cases h' with
    | declared hentry' hunit' =>
      rw [hsame, hentry] at hentry'
      cases hentry'
    | undeclared hentry' hrest' => exact ih hrest'

end Serves

/-! ## Resolving -/

-- Under a pattern there is the unit of the first entry that has it.
theorem rel_find?_lookup {entries : List (String × Value)} {units : List (String × SchemaUnit)}
    (h : List.Forall₂ (IsUnitOf engine direction) entries units) (pattern : String) :
    Option.Rel (fun entry unit => SchemaUnit.compile engine direction entry.2 = .ok unit)
      (entries.find? fun entry => MediaType.normalize entry.1 == pattern) (units.lookup pattern) := by
  induction h with
  | nil => exact .none
  | @cons entry unit entries units hunit _ ih =>
    rw [List.find?_cons, List.lookup_cons, ← hunit.1, Bool.beq_comm]
    cases pattern == unit.1 with
    | true => exact .some hunit.2
    | false => exact ih

namespace OfEntries

theorem rel_lookup (h : OfEntries engine direction content b) (pattern : String) :
    Option.Rel (fun entry unit => SchemaUnit.compile engine direction entry.2 = .ok unit)
      (entryFor? content pattern) (b.units.lookup pattern) := by
  have hfirst : entryFor? content pattern = List.find? _ _ :=
    (find?_firstOfEach pattern (declaredEntries content)).symm
  rw [hfirst]
  exact rel_find?_lookup h.units pattern

-- The first unit that is found under one of the patterns serves.
theorem serves_findSome? (h : OfEntries engine direction content b) (patterns : List String) :
    Serves engine direction content patterns (patterns.findSome? b.unitFor?) := by
  induction patterns with
  | nil => exact .nothing
  | cons pattern rest ih =>
    have hrel := h.rel_lookup pattern
    rw [List.findSome?_cons, unitFor?]
    generalize hentry : entryFor? content pattern = found at hrel
    generalize b.units.lookup pattern = unit at hrel
    cases hrel with
    | none => exact .undeclared hentry ih
    | some hunit => exact .declared hentry hunit

-- The units stand under the declared patterns.
theorem map_units (h : OfEntries engine direction content b) :
    b.units.map (·.1) = declaredPatterns content :=
  (Related.map_eq h.units fun _ _ hunit => hunit.1.symm).symm

end OfEntries

-- A content type with a normalized form is not blank.
theorem isBlank_eq_false_of_normalize_ne {contentType : String}
    (h : MediaType.normalize contentType ≠ "") : isBlank contentType = false := by
  by_contra hblank
  rw [Bool.not_eq_false, isBlank, String.isEmpty_iff] at hblank
  exact h (MediaType.normalize_of_blank hblank)

theorem resolve_of_not_blank {contentType : String} (h : isBlank contentType = false) :
    b.resolve (some contentType) = (MediaType.preferences contentType).findSome? b.unitFor? := by
  rw [resolve, h]
  show Option.or _ (Option.or _ _) = _
  rw [MediaType.preferences, List.findSome?_cons, List.findSome?_cons, List.findSome?_cons,
    List.findSome?_nil]
  cases b.unitFor? (MediaType.normalize contentType) with
  | some unit => rfl
  | none =>
    cases b.unitFor? (MediaType.mainPattern (MediaType.normalize contentType)) with
    | some unit => rfl
    | none => cases b.unitFor? MediaType.wildcard <;> rfl

theorem OfEntries.defaultUnit?_eq (h : OfEntries engine direction content b) :
    b.defaultUnit? = (defaultPreferences content).findSome? b.unitFor? := by
  rw [defaultUnit?, defaultPreferences, List.findSome?_cons]
  cases b.unitFor? MediaType.wildcard with
  | some unit => rfl
  | none =>
    dsimp only
    rw [onlyPattern?, ← h.map_units]
    rcases hunits : b.units with _ | ⟨unit, _ | ⟨next, rest⟩⟩
    · rfl
    · have hfound : b.unitFor? unit.1 = some unit := by
        rw [unitFor?, hunits, List.lookup_cons_self]
        rfl
      simp only [List.map_cons, List.map_nil, Option.toList_some, List.findSome?_cons, hfound]
    · rfl

/-! ## The order of the entries -/

-- Where no two entries have one pattern, an entry is found by its pattern wherever it stands.
theorem entryFor?_eq_some_iff
    (h : ((declaredEntries content).map fun entry => MediaType.normalize entry.1).Nodup)
    {pattern : String} {entry : String × Value} :
    entryFor? content pattern = some entry ↔
      entry ∈ declaredEntries content ∧ MediaType.normalize entry.1 = pattern := by
  constructor
  · intro hfind
    exact ⟨List.mem_of_find?_eq_some hfind, by simpa using List.find?_some hfind⟩
  · rintro ⟨hmem, rfl⟩
    refine Related.find?_of_unique hmem (by simp) fun other hother hsame => ?_
    exact List.inj_on_of_nodup_map h hother hmem (by simpa using hsame)

section

variable {others : Fields}

theorem declaredEntries_perm (hperm : others.Perm content.fields) :
    (declaredEntries (.object others)).Perm (declaredEntries content) :=
  hperm.filterMap _

theorem entryFor?_perm (hperm : others.Perm content.fields)
    (hdistinct : ((declaredEntries content).map fun entry => MediaType.normalize entry.1).Nodup)
    (pattern : String) : entryFor? (.object others) pattern = entryFor? content pattern := by
  have hperm' := declaredEntries_perm hperm
  ext entry
  rw [entryFor?_eq_some_iff hdistinct, entryFor?_eq_some_iff ((hperm'.map _).nodup_iff.2 hdistinct),
    hperm'.mem_iff]

theorem onlyPattern?_perm (hperm : others.Perm content.fields)
    (hdistinct : ((declaredEntries content).map fun entry => MediaType.normalize entry.1).Nodup) :
    onlyPattern? (.object others) = onlyPattern? content := by
  have hperm' := (declaredEntries_perm hperm).map fun entry => MediaType.normalize entry.1
  rw [onlyPattern?, onlyPattern?, declaredPatterns, declaredPatterns, firstOfEach_of_nodup hdistinct,
    firstOfEach_of_nodup (hperm'.nodup_iff.2 hdistinct)]
  generalize (declaredEntries content).map _ = patterns at hperm'
  rcases patterns with _ | ⟨pattern, _ | ⟨next, rest⟩⟩
  · rw [hperm'.eq_nil]
  · rw [hperm'.eq_singleton]
  · generalize (declaredEntries (.object others)).map _ = patterns' at hperm'
    rcases patterns' with _ | ⟨pattern', _ | ⟨next', rest'⟩⟩
    · rfl
    · exact absurd hperm'.length_eq (by simp)
    · rfl

-- Entries that are compiled in one order are compiled in any other.
theorem exists_build_perm {required : Bool}
    (hperm : others.Perm content.fields)
    (hdistinct : ((declaredEntries content).map fun entry => MediaType.normalize entry.1).Nodup)
    (h : build content required engine direction = .ok b) :
    ∃ b', build (.object others) required engine direction = .ok b' := by
  have hunits := (ofEntries_of_build h).units
  rw [firstOfEach_of_nodup hdistinct] at hunits
  have hcompile : ∀ entry ∈ declaredEntries (.object others),
      ∃ unit, SchemaUnit.compile engine direction entry.2 = .ok unit := by
    intro entry hentry
    obtain ⟨unit, -, -, hunit⟩ :=
      Related.exists_of_mem_left hunits ((declaredEntries_perm hperm).subset hentry)
    exact ⟨unit.2, hunit⟩
  have hentries : entries (.object others) = .ok (declaredEntries (.object others)) :=
    congrArg Except.ok (declaredEntries_of_entries rfl).symm
  obtain ⟨units, hcompiled⟩ := exists_compileUnits hcompile []
  simp only [build, Result.ofExcept_eq, Result.bind_eq_ok_iff]
  exact ⟨_, _, hentries, units, hcompiled, rfl⟩

end

/-! ## Negotiation -/

-- A content type that is not blank is served by the most specific entry.
theorem serves_resolve (h : OfEntries engine direction content b) {contentType : String}
    (hblank : isBlank contentType = false) :
    Serves engine direction content (MediaType.preferences contentType)
      (b.resolve (some contentType)) := by
  rw [resolve_of_not_blank hblank]
  exact h.serves_findSome? _

-- Without a content type it is the entry for all types or the only one.
theorem serves_resolve_none (h : OfEntries engine direction content b) :
    Serves engine direction content (defaultPreferences content) (b.resolve none) := by
  rw [resolve, h.defaultUnit?_eq]
  exact h.serves_findSome? _

theorem resolve_of_blank {contentType : String} (h : isBlank contentType = true) :
    b.resolve (some contentType) = b.resolve none := by
  rw [resolve, resolve, if_pos h]

-- Entries in another order serve alike, as long as no two have one pattern.
theorem resolve_perm {required : Bool} {others : Fields} {b' : BodyValidator}
    (hperm : others.Perm content.fields)
    (hdistinct : ((declaredEntries content).map fun entry => MediaType.normalize entry.1).Nodup)
    (h : build content required engine direction = .ok b)
    (h' : build (.object others) required engine direction = .ok b') (contentType : Option String) :
    b'.resolve contentType = b.resolve contentType := by
  have hentries := ofEntries_of_build h
  have hothers := ofEntries_of_build h'
  have hsame := entryFor?_perm hperm hdistinct
  have hnone : b'.resolve none = b.resolve none := by
    have hserves := serves_resolve_none hothers
    rw [defaultPreferences, onlyPattern?_perm hperm hdistinct] at hserves
    exact (serves_resolve_none hentries).unique hserves hsame
  cases contentType with
  | none => exact hnone
  | some contentType =>
    cases hblank : isBlank contentType with
    | true => rw [resolve_of_blank hblank, resolve_of_blank hblank, hnone]
    | false => exact (serves_resolve hentries hblank).unique (serves_resolve hothers hblank) hsame

/-- Which unit serves a body. For a content type whose normalized form is not empty it is the unit of
the first entry declared under the first of three patterns that is declared at all: the normalized
content type, the pattern for its main type and the pattern for all types; nothing serves exactly when
none of the three is declared. Without a content type, or under a blank one, it is the unit for all
types, else the only one. The content types are listed as they are declared, in their order. When no
two entries have one normalized pattern, a content map with its entries in another order is compiled
too, and the same unit serves each content type. -/
theorem resolve_serves_most_specific {required : Bool}
    (h : build content required engine direction = .ok b) :
    (∀ contentType, MediaType.normalize contentType ≠ "" →
      Serves engine direction content (MediaType.preferences contentType)
        (b.resolve (some contentType)) ∧
      (b.resolve (some contentType) = none ↔
        ∀ pattern ∈ MediaType.preferences contentType, entryFor? content pattern = none)) ∧
    (∀ contentType : Option String, contentType.all isBlank = true →
      Serves engine direction content (defaultPreferences content) (b.resolve contentType)) ∧
    b.contentTypes = content.fields.filterMap (fun field => (Value.scalar field.1).string?) ∧
    (((declaredEntries content).map fun entry => MediaType.normalize entry.1).Nodup →
      ∀ others : Fields, others.Perm content.fields →
        ∃ b', build (.object others) required engine direction = .ok b' ∧
          ∀ contentType, b'.resolve contentType = b.resolve contentType) := by
  have hentries := ofEntries_of_build h
  refine ⟨?_, ?_, ?_, ?_⟩
  · intro contentType hne
    have hserves := serves_resolve hentries (isBlank_eq_false_of_normalize_ne hne)
    exact ⟨hserves, hserves.eq_none_iff⟩
  · intro contentType hblank
    cases contentType with
    | none => exact serves_resolve_none hentries
    | some contentType =>
      rw [resolve_of_blank hblank]
      exact serves_resolve_none hentries
  · exact hentries.contentTypes_eq
  · intro hdistinct others hperm
    obtain ⟨b', hb'⟩ := exists_build_perm hperm hdistinct h
    exact ⟨b', hb', resolve_perm hperm hdistinct h hb'⟩

/-- Notes under five patterns, of which two differ in case and parameters only. -/
def noteContent : Value :=
  .object
    [(.str "*/*", .object []), (.str "Application/JSON; v=1", .object [(.str "schema", .bool true)]),
      (.str "application/json", .object [(.str "schema", .bool false)]), (.int 1, .object []),
      (.str "text/*", .object [(.str "schema", .object [(.str "type", .str "string")])])]

-- The entry that is declared first serves its type, the one for texts serves plain text.
theorem serves_of_noteContent : ∃ b,
    build noteContent true (Engine.standard {} (some "3.1.0")) .request = .ok b ∧
      Serves (Engine.standard {} (some "3.1.0")) .request noteContent
        ["application/json", "application/*", "*/*"] (b.resolve (some "application/json;charset=x")) ∧
      entryFor? noteContent "application/json" = some ("Application/JSON; v=1", .bool true) ∧
      b.contentTypes = ["*/*", "Application/JSON; v=1", "application/json", "text/*"] := by
  have hbuild : (build noteContent true (Engine.standard {} (some "3.1.0")) .request).isOk = true := by
    decide +kernel
  obtain ⟨b, hb⟩ := Result.exists_of_isOk hbuild
  obtain ⟨hserves, -, htypes, -⟩ := resolve_serves_most_specific hb
  refine ⟨b, hb, ?_, by decide +kernel, htypes.trans (by decide +kernel)⟩
  have hpreferences : MediaType.preferences "application/json;charset=x" =
      ["application/json", "application/*", "*/*"] := by decide +kernel
  rw [← hpreferences]
  exact (hserves "application/json;charset=x" (by decide +kernel)).1

end BodyValidator

end ApiContract
