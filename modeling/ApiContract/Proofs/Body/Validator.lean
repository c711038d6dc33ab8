import ApiContract.Body.Validator
import ApiContract.Proofs.Schema.Question

/-!
# The question of a body validator

A body validator asks the schema that serves the content type about the body. There is nothing to
ask about an optional body that is missing; a required body that is missing, and a content type that
nothing serves, are errors without a question.
-/

namespace ApiContract

-- Headers that are no object are at fault.
theorem MediaType.untyped_ofHeaders (headers : Value) : Untyped (ofHeaders headers) := by
  unfold ofHeaders
  split
  · exact .ok _
  · split
    · exact Untyped.stop _
    · exact .ok _

namespace BodyValidator

/-- What a validator asks about a body under the content type among the headers. -/
def question (b : BodyValidator) (body headers : Value) : Question := do
  let contentType ← MediaType.ofHeaders headers
  if body.isNull then
    if b.required then throw b.missing else return none
  else
    match b.resolve contentType with
    | none => throw (b.unsupported contentType)
    | some (_, unit) => return some (unit, body)

/-- The kind of error for the bodies of a direction. -/
def kindOf : Direction → ErrorKind
  | .request => .requestBodyValidation
  | .response => .responseBodyValidation

/-- The error for a rejection by the schema. -/
def rejection (direction : Direction) (violations : List Violation) : ContractError :=
  { kind := kindOf direction, message := "Schema validation error",
    location := direction.name ++ "-body", violations := violations }

/-- The validator belongs to a direction, and its schemas are compiled. -/
structure BuiltFor (engine : Engine (Except Failure)) (direction : Direction) (b : BodyValidator) :
    Prop where
  direction_eq : b.direction = direction
  compiled : ∀ p ∈ b.units, p.2.CompiledBy engine direction

variable {engine : Engine (Except Failure)} {direction : Direction} {b : BodyValidator}

-- Units that are compiled already stay, and each further one comes from the engine.
theorem compiledBy_of_compileUnits {done units : List (String × SchemaUnit)}
    {entries : List (String × Value)}
    (h : compileUnits engine direction done entries = .ok units)
    (hdone : ∀ p ∈ done, p.2.CompiledBy engine direction) :
    ∀ p ∈ units, p.2.CompiledBy engine direction := by
  induction entries generalizing done with
  | nil =>
    rcases Except.ok.inj h with rfl
    exact hdone
  | cons entry rest ih =>
    rcases entry with ⟨pattern, schema⟩
    unfold compileUnits at h
    dsimp only at h
    split at h
    · exact ih h hdone
    · rcases Result.bind_eq_ok_iff.1 h with ⟨unit, hunit, h⟩
      refine ih h fun p hp => ?_
      rcases List.mem_append.1 hp with hp | hp
      · exact hdone p hp
      · rw [List.mem_singleton.1 hp]
        exact SchemaUnit.compiledBy_of_compile hunit

-- A built validator keeps its direction.
theorem builtFor_of_build {content : Value} {required : Bool}
    (h : build content required engine direction = .ok b) : BuiltFor engine direction b := by
  simp only [build, Result.ofExcept_eq, Result.bind_eq_ok_iff] at h
  rcases h with ⟨declared, -, units, hunits, h⟩
  rcases Except.ok.inj h with rfl
  exact ⟨rfl, compiledBy_of_compileUnits hunits fun p hp => absurd hp List.not_mem_nil⟩

/-! ## The schema that serves a content type -/

-- A lookup by pattern finds a compiled unit.
theorem mem_of_unitFor? {pattern : String} {p : String × SchemaUnit}
    (h : b.unitFor? pattern = some p) : p ∈ b.units := by
  rcases Option.map_eq_some_iff.1 h with ⟨unit, hunit, rfl⟩
  rcases List.lookup_eq_some_iff.1 hunit with ⟨before, after, heq, -⟩
  rw [heq]
  simp

-- Without a content type it is the unit for all types or the only one.
theorem mem_of_defaultUnit? {p : String × SchemaUnit} (h : b.defaultUnit? = some p) :
    p ∈ b.units := by
  unfold defaultUnit? at h
  split at h
  · rename_i unit hunit
    rcases Option.some.inj h with rfl
    exact mem_of_unitFor? hunit
  · split at h
    · rename_i unit hunits
      rcases Option.some.inj h with rfl
      rw [hunits]
      exact List.mem_singleton_self _
    · cases h

-- Whatever serves a content type is one of the compiled schemas.
theorem mem_of_resolve {contentType : Option String} {p : String × SchemaUnit}
    (h : b.resolve contentType = some p) : p ∈ b.units := by
  unfold resolve at h
  split at h
  · exact mem_of_defaultUnit? h
  · split at h
    · exact mem_of_defaultUnit? h
    · rcases Option.or_eq_some_iff.1 h with h | ⟨-, h⟩
      · exact mem_of_unitFor? h
      · rcases Option.or_eq_some_iff.1 h with h | ⟨-, h⟩
        · exact mem_of_unitFor? h
        · exact mem_of_unitFor? h

-- A body that is there is put to the schema that serves its content type.
theorem validatePresent_eq (b : BodyValidator) (body : Value) (contentType : Option String) :
    b.validatePresent body contentType =
      match b.resolve contentType with
      | none => .error (b.unsupported contentType)
      | some (_, unit) => typedAnswer (rejection b.direction) (unit.check body) := by
  have htyped : ∀ unit : SchemaUnit, (unit.validate body).mapError b.typedError =
      typedAnswer (rejection b.direction) (unit.check body) := by
    intro unit
    refine SchemaUnit.mapError_validate (fun violations => ?_) (fun failure hne => ?_)
    · cases hd : b.direction <;> simp only [typedError, rejection, location, errorKind, kindOf, hd]
    · cases failure with
      | rejected violations => exact absurd rfl (hne violations)
      | _ => rfl
  unfold validatePresent
  cases b.resolve contentType with
  | none => rfl
  | some p => exact htyped p.2

-- A validator answers its question.
theorem BuiltFor.answers (h : BuiltFor engine direction b) (body headers : Value) :
    Answers engine direction (rejection direction) (b.question body headers)
      (do b.validate body (← MediaType.ofHeaders headers)) := by
  unfold question
  cases hheaders : MediaType.ofHeaders headers with
  | error failure => exact .error failure
  | ok contentType =>
    change Answers engine direction _ (if body.isNull then _ else _) (b.validate body contentType)
    unfold validate
    by_cases hnull : body.isNull = true
    · rw [if_pos hnull, if_pos hnull]
      by_cases hrequired : b.required = true
      · rw [if_pos hrequired, if_pos hrequired]
        exact .error b.missing
      · rw [if_neg hrequired, if_neg hrequired]
        exact .nothing
    · rw [if_neg hnull, if_neg hnull, validatePresent_eq, h.direction_eq]
      cases hresolve : b.resolve contentType with
      | none => exact .error (b.unsupported contentType)
      | some p => exact .asked (h.compiled _ (mem_of_resolve hresolve)) body

end BodyValidator

end ApiContract
