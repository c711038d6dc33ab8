import ApiContract.Proofs.Schema.Draft
import ApiContract.Schema.Engine

/-!
# Valid outcomes

What it takes for an outcome to be valid, from the checks that it is put together from up to the
verdict of an engine. A valid outcome has neither violations nor a fault, so every check that it is
put together from is valid too. Without faults, no violation of one of the checks is lost either.
-/

namespace ApiContract

namespace Outcome

theorem eq_valid_iff {o : Outcome} : o = valid ↔ o.violations = [] ∧ o.fault = none := by
  rcases o with ⟨violations, fault⟩
  simp [valid]

@[simp] theorem violated_ne_valid (cause : Cause) : violated cause ≠ valid := by
  simp [violated, valid]

@[simp] theorem stopped_ne_valid (f : Fault) : stopped f ≠ valid := by
  simp [stopped, valid]

@[simp] theorem require_eq_valid_iff {ok : Bool} {cause : Cause} :
    require ok cause = valid ↔ ok = true := by
  cases ok <;> simp [require]

@[simp] theorem under_eq_valid_iff {step : Step} {o : Outcome} :
    o.under step = valid ↔ o = valid := by
  simp [eq_valid_iff, under]

-- A stopped check keeps the fault, so the second one matters only where the first is valid.
theorem andThen_eq_valid_iff {a : Outcome} {b : Unit → Outcome} :
    a.andThen b = valid ↔ a = valid ∧ b () = valid := by
  rcases a with ⟨violations, fault⟩
  cases fault with
  | none => simp [andThen, eq_valid_iff, and_assoc]
  | some f => simp [andThen, eq_valid_iff]

-- Checking the elements of a list is valid when every element is.
theorem each_eq_valid_iff {α : Type} {check : α → Outcome} {xs : List α} :
    each check xs = valid ↔ ∀ x ∈ xs, check x = valid := by
  induction xs with
  | nil => simp [each]
  | cons x rest ih =>
    rw [each, andThen_eq_valid_iff, ih]
    simp

-- A check that is stopped keeps the violations of those behind it from being found.
theorem mem_each_violations {α : Type} {check : α → Outcome} {xs : List α} {w : Violation}
    (h : ∀ x ∈ xs, (check x).fault = none) :
    w ∈ (each check xs).violations ↔ ∃ x ∈ xs, w ∈ (check x).violations := by
  induction xs with
  | nil => simp [each, valid]
  | cons x rest ih =>
    have hfirst := h x List.mem_cons_self
    have hrest := ih fun y hy => h y (List.mem_cons_of_mem x hy)
    simp [each, andThen, hfirst, hrest]

end Outcome

/-- The verdict is favourable exactly when the outcome is valid, whichever violations are asked
for. -/
theorem Engine.verdict_valid_iff {options : EngineOptions} {o : Outcome} {answer : Verdict}
    (h : verdict options o = .ok answer) : answer.valid = true ↔ o = .valid := by
  rcases o with ⟨violations, fault⟩
  unfold verdict at h
  by_cases hall : options.allErrors = true
  · rw [if_pos hall] at h
    cases fault with
    | some f => simp [Outcome.all, stop] at h
    | none =>
      simp only [Outcome.all, Except.ok.injEq] at h
      subst h
      simp [Outcome.eq_valid_iff]
  · rw [if_neg hall] at h
    cases violations with
    | cons w rest =>
      simp only [Outcome.first, Except.ok.injEq] at h
      subst h
      simp [Outcome.eq_valid_iff]
    | nil =>
      cases fault with
      | some f => simp [Outcome.first, stop] at h
      | none =>
        simp only [Outcome.first, Except.ok.injEq] at h
        subst h
        simp [Outcome.eq_valid_iff]

/-- What a schema is compiled into, and when: the check evaluates the prepared schema. -/
theorem Engine.compileSchema_eq_ok_iff {options : EngineOptions} {version : Option String}
    {direction : Direction} {schema : Value} {check : Check} :
    compileSchema options version direction schema = .ok check ↔
      isSchema schema = true ∧
      (options.strict = true → Schema.problems (Dialect.ofVersion version) schema = []) ∧
      ¬ (Dialect.ofVersion version = .v30 ∧ schema.isBool = true) ∧
      ∃ prepared, Schema.preparedFor direction schema = .ok prepared ∧
        check = fun v =>
          verdict options (Schema.check (Dialect.ofVersion version) direction prepared v) := by
  constructor
  · intro h
    unfold compileSchema at h
    dsimp only at h
    cases hschema : isSchema schema with
    | false => rw [hschema] at h; cases h
    | true =>
      rw [hschema, if_neg (by decide)] at h
      cases hprepared : Schema.preparedFor direction schema with
      | error f =>
        rw [hprepared] at h
        split at h
        · split at h
          · cases h
          · cases h
        · cases h
      | ok prepared =>
        rw [hprepared] at h
        by_cases hdialect : Dialect.ofVersion version = .v30 ∧ schema.isBool = true
        · simp only [if_pos hdialect] at h
          split at h
          · split at h
            · cases h
            · cases h
          · cases h
        · simp only [if_neg hdialect] at h
          refine ⟨rfl, fun hstrict => ?_, hdialect, prepared, rfl, ?_⟩
          · rw [if_pos hstrict] at h
            split at h
            · cases h
            · assumption
          · split at h
            · split at h
              · cases h
              · exact (Except.ok.inj h).symm
            · exact (Except.ok.inj h).symm
  · rintro ⟨hschema, hproblems, hdialect, prepared, hprepared, rfl⟩
    unfold compileSchema
    dsimp only
    rw [hschema, if_neg (by decide), hprepared]
    simp only [if_neg hdialect]
    split
    · rename_i hstrict
      rw [hproblems hstrict]
      rfl
    · rfl

namespace Schema

variable {ctx : Context} {judge : Judge} {v : Value}

-- What is no object means the same to every judge.
theorem Judge.apply_eq_of_not_object {schema : Value} (judge' : Judge)
    (hschema : schema.isObject = false) : judge.apply schema v = judge'.apply schema v := by
  cases schema with
  | object fields => cases hschema
  | list items => rfl
  | scalar s =>
    unfold apply
    split
    · contradiction
    · rfl
    · rfl
    · rfl

-- Where a refusal is reported does not decide whether there is one.
theorem Judge.applyAt_eq_valid_iff {step : Step} {schema part : Value} :
    judge.applyAt step schema part = .valid ↔ judge.apply schema part = .valid := by
  unfold applyAt
  split
  · simp [apply]
  · exact Outcome.under_eq_valid_iff

/-! ## The rules that apply further schemas -/

theorem Rule.allOf_eq_valid_iff {schemas : List Value} :
    Rule.allOf judge (.list schemas) v = .valid ↔
      ∀ schema ∈ schemas, judge.apply schema v = .valid := by
  exact Outcome.each_eq_valid_iff

-- Where `properties` is valid, each property is valid under its schema.
theorem Rule.apply_of_properties {schemas members : Fields} {name : String} {schema w : Value}
    (h : Rule.properties ctx judge (.object schemas) (.object members) = .valid)
    (hdraft : ctx.draft = none) (hschema : Value.lookup schemas name = some schema)
    (hw : Value.lookup members name = some w) : judge.apply schema w = .valid := by
  have hrule : Rule.properties ctx judge (.object schemas) (.object members) =
      .each (Rule.property judge members) schemas := by
    simp only [Rule.properties, hdraft]
    rfl
  rw [hrule, Outcome.each_eq_valid_iff] at h
  have hentry := h _ (Value.mem_of_lookup hschema)
  simp only [Rule.property, hw] at hentry
  exact Judge.applyAt_eq_valid_iff.1 hentry

-- Positions only say where violations are.
theorem Rule.eachItem_eq_valid_iff {schema : Value} {start : Nat} {items : List Value} :
    Rule.eachItem judge schema start items = .valid ↔
      ∀ item ∈ items, judge.apply schema item = .valid := by
  rw [Rule.eachItem, Outcome.each_eq_valid_iff]
  simp only [Judge.applyAt_eq_valid_iff]
  constructor
  · intro h item hitem
    rcases List.mem_iff_getElem.1 hitem with ⟨i, hi, rfl⟩
    exact h (items[i], start + i) (List.mk_add_mem_zipIdx_iff_getElem?.2 (by simp [hi]))
  · intro h p hp
    exact h p.1 (List.fst_mem_of_mem_zipIdx hp)

-- Where no position has a schema of its own and `items` is valid, each item is valid.
theorem Rule.apply_of_items {siblings schema : Fields} {items : List Value} {item : Value}
    (h : Rule.items ctx judge siblings (.object schema) (.list items) = .valid)
    (hdraft : ctx.draft = none) (hpositions : Value.lookup siblings "prefixItems" = none)
    (hitem : item ∈ items) :
    judge.apply (.object schema) item = .valid := by
  have heach : Rule.eachItem judge (.object schema) 0 items = .valid := by
    cases hd : ctx.dialect with
    | v30 => simpa only [Rule.items, hdraft, hd] using h
    | v31 =>
      simp only [Rule.items, hdraft, hd, Rule.itemsBehind, Rule.positions, hpositions] at h
      cases items with
      | nil => cases hitem
      | cons first rest => exact h
  exact Rule.eachItem_eq_valid_iff.1 heach item hitem

-- A truthy flag is refused in the direction in which it hides.
theorem Rule.visibility_ne_valid {flagged : Value} (htruthy : flagged.truthy = true) :
    Rule.visibility ctx (Visibility.hiddenIn ctx.direction) flagged ≠ .valid := by
  have hallowed := (Visibility.eq_hiddenIn_iff _ ctx.direction).1 rfl
  simp [Rule.visibility, htruthy, hallowed]

/-! ## Evaluation -/

-- Without a draft, around a schema or in it, the schema is evaluated as a whole one is.
theorem evaluate_eq_checkFields {depth : Nat} {fields : Fields} (hdraft : ctx.draft = none)
    (hfields : Draft.declared? fields = .ok none) :
    evaluate (depth + 1) ctx fields v = checkFields ctx depth fields v := by
  rw [evaluate, Context.inside_of_undeclared hfields, Context.applicable_of_no_draft hdraft]
  rfl

theorem checkFields_of_evaluate {depth : Nat} {fields : Fields}
    (h : evaluate depth ctx fields v = .valid) (hdraft : ctx.draft = none)
    (hfields : Undeclared (.object fields)) : ∃ below, checkFields ctx below fields v = .valid := by
  cases depth with
  | zero => exact absurd h (Outcome.stopped_ne_valid _)
  | succ below =>
    refine ⟨below, ?_⟩
    cases hdeclared : Draft.declared? fields with
    | error f =>
      rw [evaluate, Context.inside, hdeclared] at h
      exact absurd h (Outcome.stopped_ne_valid _)
    | ok declared =>
      cases declared with
      | some draft => exact absurd hdeclared (hfields fields rfl draft)
      | none => rwa [evaluate_eq_checkFields hdraft hdeclared] at h

-- Where a schema is valid, each of its keywords is.
theorem checkKeyword_of_checkFields {depth : Nat} {fields : Fields} {name : String} {arg : Value}
    {keyword : Keyword} (h : checkFields ctx depth fields v = .valid)
    (harg : Value.lookup fields name = some arg) (hname : ctx.keyword? name = some keyword) :
    checkKeyword ctx (evaluate depth) depth fields arg v keyword = .valid := by
  have hfield := Outcome.each_eq_valid_iff.1 h _ (Value.mem_of_lookup harg)
  simpa only [checkField, hname] using hfield

end Schema

end ApiContract
