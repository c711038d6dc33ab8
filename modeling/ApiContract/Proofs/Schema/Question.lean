import ApiContract.Proofs.Result
import ApiContract.Schema.Engine

/-!
# Questions to an engine

A validator looks at its part of a message and then, unless the part is at fault or there is nothing
to check, asks one compiled schema about one value. What it makes of the answer depends on nothing
else: an unfavourable verdict becomes the validator's error with the violations that came with it,
and any failure but a rejection is passed on as it is.
-/

namespace ApiContract

/-- What a validator asks about its part: a schema about a value, or nothing. -/
abbrev Question := Except Failure (Option (SchemaUnit × Value))

/-- The check of the unit is the one that the engine compiled its schema into. -/
def SchemaUnit.CompiledBy (engine : Engine (Except Failure)) (direction : Direction)
    (unit : SchemaUnit) : Prop :=
  engine.compile direction unit.schema = .ok unit.check

-- Compiling keeps the schema beside its check.
theorem SchemaUnit.compiledBy_of_compile {engine : Engine (Except Failure)}
    {direction : Direction} {schema : Value} {unit : SchemaUnit}
    (h : SchemaUnit.compile engine direction schema = .ok unit) :
    unit.CompiledBy engine direction := by
  rcases Result.bind_eq_ok_iff.1 h with ⟨check, hcheck, h⟩
  rcases Except.ok.inj h with rfl
  exact hcheck

/-- What a validator makes of an engine's answer. -/
def typedAnswer (rejection : List Violation → ContractError) :
    Except Failure Verdict → Except Failure PUnit.{1}
  | .ok ⟨true, _⟩ => .ok ⟨⟩
  | .ok ⟨false, violations⟩ => .error (.contract (rejection violations))
  | .error (.rejected violations) => .error (.contract (rejection violations))
  | .error failure => .error failure

/-- A result answers a question that is put to an engine. -/
structure Answers (engine : Engine (Except Failure)) (direction : Direction)
    (rejection : List Violation → ContractError) (question : Question)
    (result : Except Failure PUnit.{1}) : Prop where
  of_error : ∀ failure, question = .error failure → result = .error failure
  of_none : question = .ok none → result = .ok ⟨⟩
  of_some : ∀ unit v, question = .ok (some (unit, v)) →
    unit.CompiledBy engine direction ∧ result = typedAnswer rejection (unit.check v)

namespace Answers

variable {engine : Engine (Except Failure)} {direction : Direction}
  {rejection : List Violation → ContractError}

theorem error (failure : Failure) :
    Answers engine direction rejection (.error failure) (.error failure) := by
  constructor
  · intro _ h
    exact congrArg Except.error (Except.error.inj h)
  · intro h; cases h
  · intro _ _ h; cases h

theorem nothing : Answers engine direction rejection (.ok none) (.ok ⟨⟩) := by
  constructor
  · intro _ h; cases h
  · intro _; rfl
  · intro _ _ h; cases h

theorem asked {unit : SchemaUnit} (hunit : unit.CompiledBy engine direction) (v : Value) :
    Answers engine direction rejection (.ok (some (unit, v)))
      (typedAnswer rejection (unit.check v)) := by
  constructor
  · intro _ h; cases h
  · intro h; cases h
  · intro _ _ h
    cases h
    exact ⟨hunit, rfl⟩

end Answers

-- Rewording the rejections of a unit gives the typed answer.
theorem SchemaUnit.mapError_validate {unit : SchemaUnit} {v : Value}
    {rejection : List Violation → ContractError} {typed : Failure → Failure}
    (hrejected : ∀ violations, typed (.rejected violations) = .contract (rejection violations))
    (hother : ∀ failure, (∀ violations, failure ≠ .rejected violations) → typed failure = failure) :
    (unit.validate v).mapError typed = typedAnswer rejection (unit.check v) := by
  unfold SchemaUnit.validate
  cases hcheck : unit.check v with
  | ok verdict =>
    rcases verdict with ⟨valid, violations⟩
    cases valid with
    | true => rfl
    | false => exact congrArg Except.error (hrejected violations)
  | error failure =>
    cases failure with
    | rejected violations => exact congrArg Except.error (hrejected violations)
    | contract error => exact congrArg Except.error (hother _ (by simp))
    | invalidDocument => exact congrArg Except.error (hother _ (by simp))
    | fault f => exact congrArg Except.error (hother _ (by simp))

end ApiContract
