import ApiContract.Proofs.Schema.Prepared
import ApiContract.Proofs.Schema.Outcome

/-!
# Hidden data

A schema is applied to a value, the branches of its `allOf` to the same value, the schemas of its
properties to members and the schema of its items to elements, at any depth. A schema that is marked
as hidden in the direction of a check refuses what it is applied to, so no value that holds hidden
data in any such place passes the check, unless a schema on the way there declares a draft: no draft
knows the flags.
-/

namespace ApiContract.Schema

/-- The schemas that `schema` applies to the parts of `whole`, through `allOf`, `properties` and
`items`, where all schemas inside it on the way satisfy a condition. -/
inductive Applied (ok : Value → Prop) (schema whole : Value) : Value → Value → Prop
  /-- The schema itself is applied to all of the value. -/
  | root : Applied ok schema whole schema whole
  /-- A branch is applied where the schema is. -/
  | branch {fields : Fields} {part branch : Value} {branches : List Value}
      (applied : Applied ok schema whole (.object fields) part)
      (allOf : Value.lookup fields "allOf" = some (.list branches)) (mem : branch ∈ branches)
      (holds : ok branch) : Applied ok schema whole branch part
  /-- The schema of a property is applied to the member with its name. -/
  | member {fields properties members : Fields} {name : String} {property v : Value}
      (applied : Applied ok schema whole (.object fields) (.object members))
      (declares : Value.lookup fields "properties" = some (.object properties))
      (declared : Value.lookup properties name = some property)
      (present : Value.lookup members name = some v) (holds : ok property) :
      Applied ok schema whole property v
  /-- Where no position has a schema of its own, the schema of items is applied to each element. -/
  | item {fields items : Fields} {elements : List Value} {element : Value}
      (applied : Applied ok schema whole (.object fields) (.list elements))
      (positions : Value.lookup fields "prefixItems" = none)
      (declared : Value.lookup fields "items" = some (.object items)) (mem : element ∈ elements)
      (holds : ok (.object items)) : Applied ok schema whole (.object items) element

variable {flag : Visibility} {ctx : Context}

/-! ## Applied schemas are checked -/

/-- The prepared form of a schema is valid for a part, at some depth of an evaluation. -/
def Checked (flag : Visibility) (ctx : Context) (node part : Value) : Prop :=
  ∃ inherited prepared depth, prepare flag inherited node = .ok prepared ∧
    Judge.apply (checkFields ctx depth) prepared part = .valid

/-- An inner schema that is found valid is checked, unless it declares a draft. -/
theorem checked_of_evaluate {inherited : List String} {node prepared part : Value} {depth : Nat}
    (hprepare : prepare flag inherited node = .ok prepared)
    (hvalid : Judge.apply (evaluate depth ctx) prepared part = .valid) (hdraft : ctx.draft = none)
    (hnode : Undeclared node) : Checked flag ctx node part := by
  obtain ⟨hother, rfl⟩ | ⟨fields, kept, rfl, rfl, hkept⟩ := prepare_cases hprepare
  · refine ⟨inherited, prepared, 0, hprepare, ?_⟩
    rw [Judge.apply_eq_of_not_object (evaluate depth ctx) hother]
    exact hvalid
  · have hundeclared : Undeclared (.object kept) := by
      rintro _ ⟨⟩ draft
      rw [declared?_prepareFields hkept]
      exact hnode fields rfl draft
    obtain ⟨below, hfields⟩ := checkFields_of_evaluate hvalid hdraft hundeclared
    exact ⟨inherited, _, below, hprepare, hfields⟩

/-- Where a schema is checked, so is each of its keywords: what stands under it in the prepared form
is found valid. -/
theorem Checked.keyword {fields : Fields} {part v : Value} {name : String} {keyword : Keyword}
    (h : Checked flag ctx (.object fields) part) (hv : Value.lookup fields name = some v)
    (hname : ctx.keyword? name = some keyword) (hkept : name ≠ "discriminator") :
    ∃ hidden prepared w depth, prepareFields flag hidden fields = .ok prepared ∧
      prepareField flag hidden (.str name) v = .ok w ∧
      checkKeyword ctx (evaluate depth) depth prepared w part keyword = .valid := by
  rcases h with ⟨inherited, w, depth, hprepare, hvalid⟩
  rcases prepare_object_eq_ok hprepare with ⟨prepared, rfl, hfields⟩
  rcases lookup_of_prepared hfields hkept hv with ⟨w, hw, hfield⟩
  exact ⟨_, prepared, w, depth, hfields, hfield, checkKeyword_of_checkFields hvalid hw hname⟩

-- What both dialects check, each of them checks under the same name.
theorem named?_shared {name : String} {keyword : Keyword} (d : Dialect)
    (h : Keyword.shared.lookup name = some keyword) :
    Keyword.named? d name = some keyword := by
  cases d with
  | v30 => exact h
  | v31 => rw [Keyword.named?, List.lookup_append, h]; rfl

theorem keyword?_shared {name : String} {keyword : Keyword} (hdraft : ctx.draft = none)
    (h : Keyword.shared.lookup name = some keyword) : ctx.keyword? name = some keyword := by
  simp only [Context.keyword?, hdraft]
  exact named?_shared ctx.dialect h

section

variable (hdraft : ctx.draft = none)

include hdraft

theorem Checked.branch {fields : Fields} {part branch : Value} {branches : List Value}
    (h : Checked flag ctx (.object fields) part)
    (hallOf : Value.lookup fields "allOf" = some (.list branches)) (hmem : branch ∈ branches)
    (hbranch : Undeclared branch) : Checked flag ctx branch part := by
  rcases h.keyword hallOf (keyword?_shared hdraft rfl) (by decide) with
    ⟨hidden, _, w, depth, -, hfield, hvalid⟩
  rcases prepareField_allOf hfield with ⟨prepared, rfl, hitems⟩
  rcases Related.exists_of_mem_left (prepareItems_eq_ok hitems) hmem with ⟨b, hb, hprepare⟩
  exact checked_of_evaluate hprepare (Rule.allOf_eq_valid_iff.1 hvalid b hb) hdraft hbranch

-- The schema of a property is prepared by itself and applied to the member.
theorem Checked.member {fields properties members : Fields} {name : String} {property v : Value}
    (h : Checked flag ctx (.object fields) (.object members))
    (hproperties : Value.lookup fields "properties" = some (.object properties))
    (hproperty : Value.lookup properties name = some property)
    (hv : Value.lookup members name = some v) (hundeclared : Undeclared property) :
    Checked flag ctx property v := by
  rcases h.keyword hproperties (keyword?_shared hdraft rfl) (by decide) with
    ⟨_, _, w, depth, -, hfield, hvalid⟩
  rcases prepareField_properties hfield with ⟨prepared, rfl, hmembers⟩
  have hrel := Related.rel_lookup (R := fun _ v w => prepare flag [] v = .ok w)
    (prepareMembers_eq_ok hmembers) name
  rw [hproperty] at hrel
  cases hlookup : Value.lookup prepared name with
  | none =>
    rw [hlookup] at hrel
    cases hrel
  | some p =>
    rw [hlookup] at hrel
    cases hrel with
    | some hprepare =>
      exact checked_of_evaluate hprepare (Rule.apply_of_properties hvalid hdraft hlookup hv) hdraft
        hundeclared

-- Preparing adds no positions, so the schema of items applies from the first element on.
theorem Checked.item {fields items : Fields} {elements : List Value} {element : Value}
    (h : Checked flag ctx (.object fields) (.list elements))
    (hpositions : Value.lookup fields "prefixItems" = none)
    (hitems : Value.lookup fields "items" = some (.object items)) (hmem : element ∈ elements)
    (hundeclared : Undeclared (.object items)) : Checked flag ctx (.object items) element := by
  rcases h.keyword hitems (keyword?_shared hdraft rfl) (by decide) with
    ⟨_, siblings, w, depth, hfields, hfield, hvalid⟩
  rw [prepareField_items] at hfield
  rcases prepare_object_eq_ok hfield with ⟨prepared, rfl, -⟩
  have hnone := lookup_eq_none_of_prepared hfields (by decide) hpositions
  exact checked_of_evaluate hfield (Rule.apply_of_items hvalid hdraft hnone hmem) hdraft hundeclared

-- Every schema that is applied is checked when the schema at the root is.
theorem Applied.checked {schema whole node part : Value}
    (h : Applied Undeclared schema whole node part) (hroot : Checked flag ctx schema whole) :
    Checked flag ctx node part := by
  induction h with
  | root => exact hroot
  | branch _ allOf mem holds ih => exact ih.branch hdraft allOf mem holds
  | member _ declares declared present holds ih =>
    exact ih.member hdraft declares declared present holds
  | item _ positions declared mem holds ih => exact ih.item hdraft positions declared mem holds

end

-- Either flag is a keyword of both dialects, with one rule.
theorem exists_keyword_of_flag (flag : Visibility) :
    ∃ keyword, Keyword.shared.lookup flag.keyword = some keyword ∧
      ∀ ctx judges depth siblings arg v,
        checkKeyword ctx judges depth siblings arg v keyword = Rule.visibility ctx flag arg := by
  cases flag with
  | readOnly => exact ⟨.readOnly, rfl, fun _ _ _ _ _ _ => rfl⟩
  | writeOnly => exact ⟨.writeOnly, rfl, fun _ _ _ _ _ _ => rfl⟩

-- A schema with a truthy flag is never checked in the direction that the flag hides.
theorem not_checked_of_truthy (ctx : Context) {node part flagged : Value}
    (hdraft : ctx.draft = none)
    (hflag : node.member? (Visibility.hiddenIn ctx.direction).keyword = some flagged)
    (htruthy : flagged.truthy = true) :
    ¬ Checked (Visibility.hiddenIn ctx.direction) ctx node part := by
  intro h
  have hkept : (Visibility.hiddenIn ctx.direction).keyword ≠ "discriminator" := by
    cases ctx.direction <;> decide
  have hdata : Place.ofKey (.str (Visibility.hiddenIn ctx.direction).keyword) = .data ∧
      Scalar.str (Visibility.hiddenIn ctx.direction).keyword ≠ .str "required" := by
    cases ctx.direction <;> exact ⟨rfl, by decide⟩
  rcases exists_keyword_of_flag (Visibility.hiddenIn ctx.direction) with ⟨keyword, hname, hrule⟩
  cases node with
  | scalar s => cases hflag
  | list items => cases hflag
  | object fields =>
    rcases h.keyword hflag (keyword?_shared hdraft hname) hkept with
      ⟨_, _, w, _, -, hfield, hvalid⟩
    rw [prepareField_of_data hdata.1 hdata.2] at hfield
    rcases Except.ok.inj hfield with rfl
    rw [hrule] at hvalid
    exact Rule.visibility_ne_valid htruthy hvalid

end ApiContract.Schema

namespace ApiContract

/-- Hidden data does not pass where no draft is declared: where a schema that is applied to a part of the
value, at whatever depth, has a truthy `readOnly`, the check that is compiled for requests does not find
the value valid, and where one has a truthy `writeOnly` the check for responses does not. Neither that
schema nor one around it may declare a draft, apart from the one at the root, whose draft does not
count. -/
theorem Engine.invalid_of_hidden {options : EngineOptions} {version : Option String}
    {direction : Direction} {schema whole node part : Value} {check : Check} {answer : Verdict}
    (hcompile : compileSchema options version direction schema = .ok check)
    (happlied : Schema.Applied Schema.Undeclared schema whole node part)
    (hflag : Value.truthy? (node.member? (Visibility.hiddenIn direction).keyword) = true)
    (hanswer : check whole = .ok answer) : answer.valid = false := by
  rcases compileSchema_eq_ok_iff.1 hcompile with ⟨-, -, -, prepared, hprepared, rfl⟩
  rcases Option.any_eq_true _ _ |>.1 hflag with ⟨flagged, hflagged, htruthy⟩
  by_contra hne
  have hvalid := (verdict_valid_iff hanswer).1 (by simpa using hne)
  -- The root of the schema is checked, as far down as the evaluation goes.
  have hroot : Schema.Checked (Visibility.hiddenIn direction)
      ⟨Dialect.ofVersion version, direction, prepared, none⟩ schema whole :=
    ⟨[], prepared, _, hprepared, hvalid⟩
  exact Schema.not_checked_of_truthy ⟨Dialect.ofVersion version, direction, prepared, none⟩ rfl
    hflagged htruthy (happlied.checked rfl hroot)

/-- A schema whose branch locks the items of a property. -/
def lockedTags : Value :=
  .object [(.str "allOf", .list [.object [(.str "properties", .object
    [(.str "tags", .object [(.str "items", .object [(.str "readOnly", .bool true)])])])]])]

-- A locked item is not valid in a request.
theorem invalid_of_locked_tags : ∃ check answer,
    Engine.compileSchema ⟨true, false⟩ none .request lockedTags = .ok check ∧
      check (.object [(.str "tags", .list [.str "new"])]) = .ok answer ∧ answer.valid = false := by
  let check : Check := fun v =>
    Engine.verdict ⟨true, false⟩ (Schema.check .v30 .request lockedTags v)
  let answer : Verdict := ⟨false, [⟨[.member "tags", .index 0], .hidden .readOnly .request⟩]⟩
  have hcompile : Engine.compileSchema ⟨true, false⟩ none .request lockedTags = .ok check := rfl
  have hanswer : check (.object [(.str "tags", .list [.str "new"])]) = .ok answer := rfl
  have hroot : Schema.Applied Schema.Undeclared lockedTags
      (.object [(.str "tags", .list [.str "new"])]) lockedTags
      (.object [(.str "tags", .list [.str "new"])]) := .root
  have hbranch := hroot.branch rfl List.mem_cons_self (Schema.undeclared_of_lookup rfl)
  have htags := hbranch.member rfl (show Value.lookup _ "tags" = _ from rfl) rfl
    (Schema.undeclared_of_lookup rfl)
  have hitem := htags.item rfl rfl List.mem_cons_self (Schema.undeclared_of_lookup rfl)
  exact ⟨check, answer, hcompile, hanswer,
    Engine.invalid_of_hidden hcompile hitem (by decide) hanswer⟩

/-- A schema that locks a property, in a schema for which it declares a draft. -/
def draftedLock : Value :=
  .object [(.str "$schema", .str "http://json-schema.org/draft-07/schema#"),
    (.str "readOnly", .bool true)]

/-- A schema with a property that is locked in a draft. -/
def draftedId : Value := .object [(.str "properties", .object [(.str "id", draftedLock)])]

-- The locked property is valid in a request.
theorem draftedId_valid_in_request :
    Schema.Applied (fun _ => True) draftedId (.object [(.str "id", .int 1)]) draftedLock (.int 1) ∧
      draftedLock.member? (Visibility.hiddenIn .request).keyword = some (.bool true) ∧
      ∃ check, Engine.compileSchema {} (some "3.0.3") .request draftedId = .ok check ∧
        check (.object [(.str "id", .int 1)]) = .ok ⟨true, []⟩ := by
  have hroot : Schema.Applied (fun _ => True) draftedId (.object [(.str "id", .int 1)]) draftedId
      (.object [(.str "id", .int 1)]) := .root
  have hanswer : (Engine.compileSchema {} (some "3.0.3") .request draftedId >>= fun check =>
      check (.object [(.str "id", .int 1)])) = .ok ⟨true, []⟩ := by decide +kernel
  obtain ⟨check, hcheck, hvalid⟩ := Result.bind_eq_ok_iff.1 hanswer
  exact ⟨hroot.member rfl (show Value.lookup _ "id" = _ from rfl) rfl trivial, rfl, check, hcheck,
    hvalid⟩

end ApiContract
