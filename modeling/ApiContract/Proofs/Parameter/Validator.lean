import ApiContract.Parameter.Validator
import ApiContract.Proofs.Schema.Question

/-!
# The question of a parameter validator

A parameter validator asks its one schema about the object that the values make. Building it settles
what its errors say.
-/

namespace ApiContract.ParameterValidator

/-- What a validator asks about the values of its location. -/
def question (validator : ParameterValidator) (values : Value) : Question := do
  let fields ← candidate values
  return some (validator.unit,
    .object (if validator.caseInsensitive then lowerKeys fields else fields))

/-- The error for a rejection by the schema. -/
def rejection (kind : ErrorKind) (location : String) (violations : List Violation) :
    ContractError :=
  { kind := kind, message := "Schema validation error in " ++ location, location := location,
    violations := violations }

/-- The validator belongs to a location, and its schema is compiled. -/
structure BuiltFor (engine : Engine (Except Failure)) (direction : Direction) (kind : ErrorKind)
    (location : String) (validator : ParameterValidator) : Prop where
  kind_eq : validator.errorKind = kind
  location_eq : validator.location = location
  compiled : validator.unit.CompiledBy engine direction

variable {engine : Engine (Except Failure)} {direction : Direction} {kind : ErrorKind}
  {location : String} {parameters : List Value} {validator : ParameterValidator}

-- Building passes on the kind and the location, and compiles one schema.
theorem builtFor_of_build {naming : Parameter.Naming}
    (h : build location naming kind parameters engine direction = .ok validator) :
    BuiltFor engine direction kind location validator := by
  simp only [build, Result.ofExcept_eq, Result.bind_eq_ok_iff] at h
  rcases h with ⟨schema, -, unit, hunit, h⟩
  rcases Except.ok.inj h with rfl
  exact ⟨rfl, rfl, SchemaUnit.compiledBy_of_compile hunit⟩

theorem builtFor_of_ofLocation (h : ofLocation location parameters engine = .ok validator) :
    BuiltFor engine .request .parameterValidation location validator :=
  builtFor_of_build h

-- The headers of a response are parameters at a location of their own.
theorem builtFor_of_ofHeaders {headers : Value}
    (h : ofHeaders headers engine direction = .ok validator) :
    BuiltFor engine direction (headerErrorKind direction) (headerLocation direction) validator := by
  simp only [ofHeaders, Result.ofExcept_eq, Result.bind_eq_ok_iff] at h
  rcases h with ⟨parameters, -, h⟩
  exact builtFor_of_build h

theorem untyped_mapM_pairOf (items : List Value) : Untyped (items.mapM pairOf) := by
  induction items with
  | nil => exact .ok []
  | cons v rest ih =>
    rw [List.mapM_cons]
    refine Result.FailsOnly.bind ?_ fun p _ => ih.bind fun ps _ => .ok _
    unfold pairOf
    split
    · exact Untyped.stop _
    · exact .ok _
    · exact Untyped.stop _
    · exact Untyped.stop _

-- Values that make no object are at fault.
theorem untyped_candidate (values : Value) : Untyped (candidate values) := by
  unfold candidate
  split
  · exact .ok _
  · split
    · exact .ok _
    · exact (untyped_mapM_pairOf _).bind fun ps _ => .ok _
    · exact Untyped.stop _
    · exact Untyped.stop _

-- An object is taken as it is, even when it is empty.
theorem candidate_object (fields : Fields) :
    candidate (.object fields) = .ok fields := by
  cases fields <;> rfl

-- Checking values puts the object that they make to the schema of the validator.
theorem validate_eq (validator : ParameterValidator) (values : Value) :
    validator.validate values = (candidate values >>= fun fields =>
      typedAnswer (rejection validator.errorKind validator.location)
        (validator.unit.check
          (.object (if validator.caseInsensitive then lowerKeys fields else fields)))) := by
  have htyped : ∀ v, (validator.unit.validate v).mapError validator.typedError =
      typedAnswer (rejection validator.errorKind validator.location) (validator.unit.check v) := by
    intro v
    refine SchemaUnit.mapError_validate (fun violations => rfl) (fun failure hne => ?_)
    cases failure with
    | rejected violations => exact absurd rfl (hne violations)
    | _ => rfl
  rw [validate]
  simp only [htyped]

-- A validator answers its question.
theorem BuiltFor.answers (h : BuiltFor engine direction kind location validator) (values : Value) :
    Answers engine direction (rejection kind location) (validator.question values)
      (validator.validate values) := by
  rw [validate_eq, h.kind_eq, h.location_eq, question]
  cases candidate values with
  | error failure => exact .error failure
  | ok fields => exact .asked h.compiled _

end ApiContract.ParameterValidator
