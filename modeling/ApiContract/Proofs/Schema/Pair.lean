import ApiContract.Proofs.Schema.Question

/-!
# Two engines side by side

Two engines can be compared by what they compile the same schemas into: related checks. Whatever is
built over the one engine is then built over the other too, with related checks in the same places,
and a relation between results that is kept from step to step holds between what the two answer.
-/

namespace ApiContract

/-- Failures that do not come from a schema: faults, and errors that name no violations. -/
inductive Failure.Plain : Failure → Prop
  | fault (f : Fault) : Plain (.fault f)
  | contract {e : ContractError} (h : e.violations = []) : Plain (.contract e)

/-- The same failure twice, and a plain one. -/
def Failure.SamePlain (failure other : Failure) : Prop := failure = other ∧ failure.Plain

/-- The same error twice, and one that names no violations. -/
def ContractError.SamePlain (e other : ContractError) : Prop := e = other ∧ e.violations = []

theorem Failure.SamePlain.fault (f : Fault) : Failure.SamePlain (.fault f) (.fault f) :=
  ⟨rfl, .fault f⟩

theorem ContractError.SamePlain.refl {e : ContractError} (h : e.violations = []) :
    e.SamePlain e := ⟨rfl, h⟩

-- An error that names no violations is a plain failure.
theorem ContractError.SamePlain.contract {e other : ContractError} (h : e.SamePlain other) :
    Failure.SamePlain (.contract e) (.contract other) := by
  rcases h with ⟨rfl, h⟩
  exact ⟨rfl, .contract h⟩

-- What only faults stop is the same twice.
theorem Untyped.matches_self {α : Type} {x : Except Failure α} (h : Untyped x) :
    Result.Matches Failure.SamePlain Eq x x := by
  cases x with
  | ok a => exact .ok rfl
  | error failure =>
    obtain ⟨fault, rfl⟩ := h failure rfl
    exact .error (.fault fault)

/-- Whatever the first engine compiles, the second compiles too, into a related check. -/
def Engine.Follows (R : Check → Check → Prop) (engine other : Engine (Except Failure)) : Prop :=
  ∀ direction schema,
    Result.Follows R (engine.compile direction schema) (other.compile direction schema)

/-- Units of the same schema whose checks are related. -/
structure SchemaUnit.Related (R : Check → Check → Prop) (unit other : SchemaUnit) : Prop where
  schema_eq : unit.schema = other.schema
  direction_eq : unit.direction = other.direction
  check : R unit.check other.check

-- The same schema is compiled into related units.
theorem SchemaUnit.follows_compile {R : Check → Check → Prop}
    {engine other : Engine (Except Failure)} (h : engine.Follows R other) (direction : Direction)
    (schema : Value) :
    Result.Follows (SchemaUnit.Related R) (SchemaUnit.compile engine direction schema)
      (SchemaUnit.compile other direction schema) := by
  refine (h direction schema).bind fun check check' hcheck => ?_
  exact .ok ⟨rfl, rfl, hcheck⟩

-- Units whose checks are equal are equal.
theorem SchemaUnit.Related.eq {unit other : SchemaUnit} (h : unit.Related Eq other) :
    unit = other := by
  rcases unit with ⟨schema, direction, check⟩
  rcases other with ⟨schema', direction', check'⟩
  rcases h with ⟨rfl, rfl, hcheck⟩
  rw [show check = check' from hcheck]

/-! ## Relations between results -/

/-- A relation between the results of one computation over related checks: it holds where the checks
are not asked, it is kept from one step to the next, and it holds between what is made of the answers
of related checks. -/
structure Carries (R : Check → Check → Prop)
    (S : (α : Type) → Except Failure α → Except Failure α → Prop) : Prop where
  ok : ∀ {α : Type} (a : α), S α (.ok a) (.ok a)
  plain : ∀ {α : Type} {failure : Failure}, failure.Plain → S α (.error failure) (.error failure)
  bind : ∀ {α β : Type} {x y : Except Failure α} {f g : α → Except Failure β},
    S α x y → (∀ a, S β (f a) (g a)) → S β (x >>= f) (y >>= g)
  answer : ∀ {check other : Check}, R check other → ∀ (e : ContractError) v,
    S PUnit (typedAnswer (fun violations => { e with violations }) (check v))
      (typedAnswer (fun violations => { e with violations }) (other v))

namespace Carries

variable {R : Check → Check → Prop} {S : (α : Type) → Except Failure α → Except Failure α → Prop}
  {α β γ : Type}

-- What is carried by related checks is carried by checks that are related more closely.
theorem mono {R' : Check → Check → Prop} (h : Carries R S)
    (hR : ∀ check other, R' check other → R check other) : Carries R' S :=
  ⟨h.ok, h.plain, h.bind, fun hcheck => h.answer (hR _ _ hcheck)⟩

-- What does not ask the checks may hand related things to the next step.
theorem bind_matches (h : Carries R S) {T : α → β → Prop} {x : Except Failure α}
    {y : Except Failure β} {f : α → Except Failure γ} {g : β → Except Failure γ}
    (hxy : Result.Matches Failure.SamePlain T x y) (hstep : ∀ a b, T a b → S γ (f a) (g b)) :
    S γ (x >>= f) (y >>= g) := by
  cases hxy with
  | ok hab => exact hstep _ _ hab
  | error hsame =>
    rcases hsame with ⟨rfl, hplain⟩
    exact h.plain hplain

-- Running through the same checks one after the other.
theorem forM (h : Carries R S) {xs : List α} {check other : α → Except Failure PUnit.{1}}
    (hcheck : ∀ x ∈ xs, S PUnit (check x) (other x)) : S PUnit (xs.forM check) (xs.forM other) := by
  induction xs with
  | nil => exact h.ok _
  | cons x xs ih =>
    rw [Result.forM_cons, Result.forM_cons]
    refine h.bind (hcheck x List.mem_cons_self) fun _ => ?_
    exact ih fun y hy => hcheck y (List.mem_cons_of_mem x hy)

end Carries

-- Equal checks give equal results.
theorem carries_eq : Carries Eq (fun _ => Eq) := by
  refine ⟨fun _ => rfl, fun _ => rfl, ?_, ?_⟩
  · rintro α β x _ f g rfl hfg
    rw [funext hfg]
  · rintro check _ rfl e v
    rfl

end ApiContract
