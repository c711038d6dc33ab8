import ApiContract.Failure.Fault
import ApiContract.Failure.Violation

/-!
# Outcomes

An outcome is what checking a value yields: violations in the order in which they are found and, if
the check cannot go on, the fault that stops it. What stands behind a fault is never found. Asking
for the first violation only does not reach a fault behind it; asking for all of them does.
-/

namespace ApiContract

/-- Violations in order, and the fault behind them, if there is one. -/
structure Outcome where
  violations : List Violation
  fault : Option Fault
  deriving DecidableEq

namespace Outcome

/-- Nothing to complain about. -/
def valid : Outcome := ⟨[], none⟩

/-- One violation at the root of the value. -/
def violated (cause : Cause) : Outcome := ⟨[.here cause], none⟩

/-- A fault before any violation. -/
def stopped (f : Fault) : Outcome := ⟨[], some f⟩

/-- A violation unless a condition holds. -/
def require (ok : Bool) (cause : Cause) : Outcome := if ok then valid else violated cause

/-- One check and then another, unless the first is stopped. -/
def andThen (a : Outcome) (b : Unit → Outcome) : Outcome :=
  match a.fault with
  | some _ => a
  | none => let b := b (); ⟨a.violations ++ b.violations, b.fault⟩

/-- One check for each element, in order. -/
def each {α : Type} (check : α → Outcome) : List α → Outcome
  | [] => valid
  | x :: rest => (check x).andThen fun _ => each check rest

/-- The same outcome seen from a value one step further out. -/
def under (step : Step) (o : Outcome) : Outcome :=
  { o with violations := o.violations.map (·.under step) }

/-- An outcome that takes a computation to arrive at. -/
def ofResult : Except Fault Outcome → Outcome
  | .ok o => o
  | .error f => stopped f

/-- All violations; a fault anywhere leaves none. -/
def all (o : Outcome) : Except Fault (List Violation) :=
  match o.fault with
  | some f => .error f
  | none => .ok o.violations

/-- The first violation, if there is one; a fault counts only when no violation precedes it. -/
def first (o : Outcome) : Except Fault (List Violation) :=
  match o.violations with
  | v :: _ => .ok [v]
  | [] =>
    match o.fault with
    | some f => .error f
    | none => .ok []

/-- Is the value valid? A fault counts only when no violation precedes it. -/
def holds (o : Outcome) : Except Fault Bool := o.first.map List.isEmpty

@[simp] theorem valid_andThen (b : Unit → Outcome) : valid.andThen b = b () := by
  simp [andThen, valid]

@[simp] theorem stopped_andThen (f : Fault) (b : Unit → Outcome) :
    (stopped f).andThen b = stopped f := rfl

@[simp] theorem all_valid : valid.all = .ok [] := rfl

@[simp] theorem first_valid : valid.first = .ok [] := rfl

@[simp] theorem all_violated (cause : Cause) : (violated cause).all = .ok [.here cause] := rfl

@[simp] theorem first_violated (cause : Cause) : (violated cause).first = .ok [.here cause] := rfl

/-- Where all violations can be found, the first of them is the first violation. -/
theorem first_eq_of_all {o : Outcome} {vs : List Violation} (h : o.all = .ok vs) :
    o.first = .ok (vs.take 1) := by
  obtain ⟨ws, fault⟩ := o
  cases fault with
  | some f => simp [all] at h
  | none =>
    simp only [all, Except.ok.injEq] at h
    subst h
    cases ws <;> simp [first]

end Outcome

end ApiContract
