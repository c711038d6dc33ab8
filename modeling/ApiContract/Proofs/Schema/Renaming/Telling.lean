import ApiContract.Proofs.Result
import ApiContract.Proofs.Schema.Renaming
import ApiContract.Schema.Rule.List
import ApiContract.Schema.Rule.Object

/-!
# Outcomes as they are told

An outcome can be told with other flags, other directions and other schemas in its causes. What a rule
without schemas reports is told as it is, and rules that report alike piece by piece report alike.
-/

namespace ApiContract

namespace Renaming

/-! ## What is reported -/

namespace Telling

/-- A cause as it is told. -/
def cause (t : Telling) : Cause → Cause
  | .hidden flag direction => .hidden (t.flag flag) (t.direction direction)
  | .excluded v s => .excluded v (t.quoted s)
  | .manyBranches v branches => .manyBranches v (branches.map t.quoted)
  | c => c

/-- A violation with its cause as it is told. -/
def violation (t : Telling) (w : Violation) : Violation := { w with cause := t.cause w.cause }

/-- An outcome with its violations as they are told. -/
def outcome (t : Telling) (o : Outcome) : Outcome :=
  { o with violations := o.violations.map t.violation }

variable {t t' : Telling}

@[simp] theorem outcome_require (ok : Bool) (c : Cause) :
    t.outcome (.require ok c) = .require ok (t.cause c) := by
  cases ok <;> rfl

@[simp] theorem outcome_andThen (o : Outcome) (rest : Unit → Outcome) :
    t.outcome (o.andThen rest) = (t.outcome o).andThen fun u => t.outcome (rest u) := by
  obtain ⟨violations, fault⟩ := o
  cases fault with
  | some f => rfl
  | none => simp [outcome, Outcome.andThen]

@[simp] theorem outcome_under (step : Step) (o : Outcome) :
    t.outcome (o.under step) = (t.outcome o).under step := by
  simp only [outcome, Outcome.under, List.map_map]
  rfl

@[simp] theorem outcome_ofResult (x : Except Fault Outcome) :
    t.outcome (.ofResult x) = .ofResult (x.map t.outcome) := by
  cases x <;> rfl

theorem outcome_each {α : Type} (check : α → Outcome) (xs : List α) :
    t.outcome (.each check xs) = .each (fun x => t.outcome (check x)) xs := by
  induction xs with
  | nil => rfl
  | cons x rest ih => simp only [Outcome.each, outcome_andThen, ih]

-- Telling does not change how many violations there are.
theorem all_outcome (o : Outcome) :
    (t.outcome o).all = o.all.map (List.map t.violation) := by
  obtain ⟨violations, fault⟩ := o
  cases fault <;> rfl

theorem first_outcome (o : Outcome) :
    (t.outcome o).first = o.first.map (List.map t.violation) := by
  obtain ⟨violations, fault⟩ := o
  cases violations <;> cases fault <;> rfl

theorem holds_outcome (o : Outcome) : (t.outcome o).holds = o.holds := by
  obtain ⟨violations, fault⟩ := o
  cases violations <;> cases fault <;> rfl

theorem length_all_outcome (o : Outcome) :
    (t.outcome o).all.map List.length = o.all.map List.length := by
  rw [all_outcome]
  cases o.all with
  | error f => rfl
  | ok violations => simp only [Except.map, List.length_map]

/-! ### Nothing told otherwise -/

theorem cause_plain (c : Cause) : plain.cause c = c := by
  cases c with
  | manyBranches v branches => exact congrArg _ (List.map_id branches)
  | _ => rfl

theorem violation_plain (w : Violation) : plain.violation w = w := by
  rw [violation, cause_plain]

theorem outcome_plain (o : Outcome) : plain.outcome o = o := by
  rw [outcome, List.map_congr_left fun w _ => violation_plain w, List.map_id']

/-! ## Rules without schemas -/

section

open Schema

variable (arg v : Value)

theorem outcome_numberBound (bound : Bound) (orEqual : Bool) :
    t.outcome (Rule.numberBound bound orEqual arg v) = Rule.numberBound bound orEqual arg v := by
  unfold Rule.numberBound
  split
  · rfl
  · split
    · rfl
    · simp [cause]

theorem outcome_multipleOf : t.outcome (Rule.multipleOf arg v) = Rule.multipleOf arg v := by
  unfold Rule.multipleOf
  split
  · rfl
  · split
    · rfl
    · simp only [outcome_ofResult, Result.map_bind, Result.map_pure, outcome_require, cause]

theorem outcome_sizeBound (bound : Bound) (size : Nat) {c : Cause} (hc : t.cause c = c) :
    t.outcome (Rule.sizeBound bound size arg c) = Rule.sizeBound bound size arg c := by
  unfold Rule.sizeBound
  split
  · rfl
  · rw [outcome_require, hc]

theorem outcome_textSize (bound : Bound) :
    t.outcome (Rule.textSize bound arg v) = Rule.textSize bound arg v := by
  unfold Rule.textSize
  split
  · exact outcome_sizeBound _ _ _ rfl
  · rfl

theorem outcome_listSize (bound : Bound) :
    t.outcome (Rule.listSize bound arg v) = Rule.listSize bound arg v := by
  unfold Rule.listSize
  split
  · exact outcome_sizeBound _ _ _ rfl
  · rfl

theorem outcome_objectSize (bound : Bound) :
    t.outcome (Rule.objectSize bound arg v) = Rule.objectSize bound arg v := by
  unfold Rule.objectSize
  split
  · exact outcome_sizeBound _ _ _ rfl
  · rfl

theorem outcome_pattern : t.outcome (Rule.pattern arg v) = Rule.pattern arg v := by
  unfold Rule.pattern
  split
  · simp only [outcome_ofResult, Result.map_bind, Result.map_pure, outcome_require, cause]
  · rfl

theorem outcome_format (ctx : Context) :
    t.outcome (Rule.format ctx arg v) = Rule.format ctx arg v := by
  unfold Rule.format
  split
  · rfl
  · split
    · split
      · rfl
      · simp only [outcome_ofResult, Result.map_bind, Result.map_pure, outcome_require, cause]
    · rfl
    · rfl

theorem outcome_uniqueItems : t.outcome (Rule.uniqueItems arg v) = Rule.uniqueItems arg v := by
  unfold Rule.uniqueItems
  split
  · simp [cause]
  · rfl

theorem outcome_required : t.outcome (Rule.required arg v) = Rule.required arg v := by
  unfold Rule.required
  split
  · simp only [outcome_ofResult, Result.map_bind, Result.map_pure, outcome_each, outcome_require,
      cause]
  · rfl

theorem outcome_namesAsked (fields : Fields) (key : Scalar) :
    t.outcome (Rule.namesAsked fields key arg) = Rule.namesAsked fields key arg := by
  simp only [Rule.namesAsked, outcome_ofResult, Result.map_bind, Result.map_pure, outcome_each,
    outcome_require, cause]

theorem outcome_dependentRequired :
    t.outcome (Rule.dependentRequired arg v) = Rule.dependentRequired arg v := by
  unfold Rule.dependentRequired
  split
  · simp only [outcome_ofResult, Result.map_bind, Result.map_pure, outcome_each,
      outcome_namesAsked]
  · rfl

theorem outcome_enum : t.outcome (Rule.enum arg v) = Rule.enum arg v := by
  simp only [Rule.enum, outcome_ofResult, Result.map_bind, Result.map_pure, outcome_require, cause]

theorem outcome_const : t.outcome (Rule.const arg v) = Rule.const arg v := by
  simp [Rule.const, cause]

theorem outcome_singleType (ctx : Context) (siblings : Fields) :
    t.outcome (Rule.singleType ctx siblings arg v) = Rule.singleType ctx siblings arg v := by
  unfold Rule.singleType
  split
  · rfl
  · rw [outcome_andThen]
    simp only [outcome_ofResult, Result.map_bind, Result.map_pure, outcome_require, cause]
    split <;> rfl

theorem outcome_anyType (ctx : Context) :
    t.outcome (Rule.anyType ctx arg v) = Rule.anyType ctx arg v := by
  simp only [Rule.anyType, outcome_ofResult, Result.map_bind, Result.map_pure, outcome_require,
    cause]

end

end Telling

/-! ## Outcomes that are told alike -/

section

variable {α β : Type}

variable {t t' : Telling}

-- Checks that agree on each element agree on a list.
theorem each_map {check : α → Outcome} {check' : β → Outcome} {f : α → β} {xs : List α}
    (h : ∀ x ∈ xs, t'.outcome (check' (f x)) = t.outcome (check x)) :
    t'.outcome (.each check' (xs.map f)) = t.outcome (.each check xs) := by
  induction xs with
  | nil => rfl
  | cons x rest ih =>
    obtain ⟨hx, hrest⟩ := List.forall_mem_cons.1 h
    simp only [List.map_cons, Outcome.each, Telling.outcome_andThen, hx, ih hrest]

theorem each_eq {check check' : α → Outcome} {xs : List α}
    (h : ∀ x ∈ xs, t'.outcome (check' x) = t.outcome (check x)) :
    t'.outcome (.each check' xs) = t.outcome (.each check xs) := by
  have hmap := each_map (f := id) h
  rwa [List.map_id] at hmap

-- Causes that are told alike are told alike under the same condition.
theorem require_congr {ok : Bool} {c c' : Cause} (h : t'.cause c' = t.cause c) :
    t'.outcome (.require ok c') = t.outcome (.require ok c) := by
  rw [Telling.outcome_require, Telling.outcome_require, h]

-- What follows from the same computation is told alike when each outcome is.
theorem ofResult_congr {x : Except Fault α} {f f' : α → Except Fault Outcome}
    (h : ∀ a, x = .ok a → t'.outcome (.ofResult (f' a)) = t.outcome (.ofResult (f a))) :
    t'.outcome (.ofResult (x >>= f')) = t.outcome (.ofResult (x >>= f)) := by
  cases x with
  | error e => rfl
  | ok a => exact h a rfl

-- The same of computations that match.
theorem ofResult_matches {R : α → β → Prop} {x : Except Fault α} {y : Except Fault β}
    {f : α → Except Fault Outcome} {f' : β → Except Fault Outcome} (hxy : Result.Matches Eq R x y)
    (h : ∀ a b, R a b → t'.outcome (.ofResult (f' b)) = t.outcome (.ofResult (f a))) :
    t'.outcome (.ofResult (y >>= f')) = t.outcome (.ofResult (x >>= f)) := by
  cases hxy with
  | ok hab => exact h _ _ hab
  | error he =>
    rw [he]
    rfl

end

end Renaming

end ApiContract
