import ApiContract.Failure.ContractError

/-!
# Results of failing computations

How success and failure pass through a sequence of steps: a step that fails ends the sequence with
its failure, and what stands behind it is not looked at.
-/

namespace ApiContract.Result

variable {ε ε' α β : Type}

-- A sequence succeeds when its first step does and the rest does.
theorem bind_eq_ok_iff {x : Except ε α} {f : α → Except ε β} {b : β} :
    (x >>= f) = .ok b ↔ ∃ a, x = .ok a ∧ f a = .ok b := by
  cases x with
  | error e => simp [bind, Except.bind]
  | ok a => simp [bind, Except.bind]

-- A sequence fails when its first step does, or else the rest.
theorem bind_eq_error_iff {x : Except ε α} {f : α → Except ε β} {e : ε} :
    (x >>= f) = .error e ↔ x = .error e ∨ ∃ a, x = .ok a ∧ f a = .error e := by
  cases x with
  | error e => simp [bind, Except.bind]
  | ok a => simp [bind, Except.bind]

-- Rewording failures leaves success alone.
@[simp] theorem mapError_eq_ok_iff {x : Except ε α} {g : ε → ε'} {a : α} :
    x.mapError g = .ok a ↔ x = .ok a := by
  cases x with
  | error e => exact ⟨nofun, nofun⟩
  | ok b => rw [Except.ok.injEq]; exact ⟨Except.ok.inj, congrArg Except.ok⟩

-- A sequence is reworded step by step.
theorem mapError_bind {x : Except ε α} {f : α → Except ε β} {g : ε → ε'} :
    (x >>= f).mapError g = x.mapError g >>= fun a => (f a).mapError g := by
  cases x <;> rfl

/-! ### Mapped results -/

section

variable {γ : Type}

theorem map_pure {f : α → β} {a : α} : (pure a : Except ε α).map f = pure (f a) := rfl

-- What is made of the result of a sequence is made of the result of its last step.
theorem map_bind {x : Except ε α} {f : α → Except ε β} {g : β → γ} :
    (x >>= f).map g = x >>= fun a => (f a).map g := by
  cases x <;> rfl

-- What is made of a result is at hand in the next step.
theorem bind_map {x : Except ε α} {g : α → β} {f : β → Except ε γ} :
    x.map g >>= f = x >>= fun a => f (g a) := by
  cases x <;> rfl

-- Steps that agree on every result of the first one can be exchanged.
theorem bind_congr {x : Except ε α} {f g : α → Except ε β} (h : ∀ a, x = .ok a → f a = g a) :
    x >>= f = x >>= g := by
  cases x with
  | error e => rfl
  | ok a => exact h a rfl

end

-- Among computations that can only fail, a result is the computation that it is a result of.
@[simp] theorem ofExcept_eq {x : Except ε α} : (MonadExcept.ofExcept x : Except ε α) = x := by
  cases x <;> rfl

-- A computation that succeeds has a result.
theorem exists_of_isOk {x : Except ε α} (h : x.isOk = true) : ∃ a, x = .ok a := by
  cases x with
  | error e => cases h
  | ok a => exact ⟨a, rfl⟩

/-! ## Which failures there can be -/

/-- The computation has no other failures than those that satisfy the condition. -/
def FailsOnly (P : ε → Prop) (x : Except ε α) : Prop := ∀ e, x = .error e → P e

section

variable {P : ε → Prop} {x : Except ε α} {f : α → Except ε β}

theorem FailsOnly.ok (a : α) : FailsOnly P (.ok a : Except ε α) := by
  intro e he
  cases he

theorem FailsOnly.error {e : ε} (h : P e) : FailsOnly P (.error e : Except ε α) := by
  intro e' he
  obtain rfl := Except.error.inj he
  exact h

-- A sequence fails as one of its steps does; the rest runs on what the first step gives.
theorem FailsOnly.bind (h : FailsOnly P x) (hstep : ∀ a, x = .ok a → FailsOnly P (f a)) :
    FailsOnly P (x >>= f) := by
  intro e he
  obtain hx | ⟨a, ha, hf⟩ := bind_eq_error_iff.1 he
  · exact h e hx
  · exact hstep a ha e hf

end

/-! ## Two computations side by side -/

section

variable {R : α → β → Prop} {γ δ : Type} {S : γ → δ → Prop} {f : α → Except ε γ}
  {g : β → Except ε δ} {a : α} {b : β} {e : ε}

/-- Where the first computation succeeds, so does the second, with a related result. -/
def Follows (R : α → β → Prop) (x : Except ε α) (y : Except ε β) : Prop :=
  ∀ a, x = .ok a → ∃ b, y = .ok b ∧ R a b

theorem Follows.ok (h : R a b) : Follows R (.ok a : Except ε α) (.ok b) := by
  intro c hc
  obtain rfl := Except.ok.inj hc
  exact ⟨b, rfl, h⟩

-- A failure asks nothing of the second computation.
theorem Follows.error {y : Except ε β} : Follows R (.error e) y := by
  intro a ha
  cases ha

theorem Follows.bind {x : Except ε α} {y : Except ε β} (h : Follows R x y)
    (hstep : ∀ a b, R a b → Follows S (f a) (g b)) : Follows S (x >>= f) (y >>= g) := by
  intro c hc
  obtain ⟨a, ha, hc⟩ := bind_eq_ok_iff.1 hc
  obtain ⟨b, hb, hab⟩ := h a ha
  obtain ⟨d, hd, hcd⟩ := hstep a b hab c hc
  exact ⟨d, bind_eq_ok_iff.2 ⟨b, hb, hd⟩, hcd⟩

-- What both computations begin with gives both the same result.
theorem Follows.bind_same {x : Except ε α} {f : α → Except ε γ} {g : α → Except ε δ}
    (hstep : ∀ a, Follows S (f a) (g a)) : Follows S (x >>= f) (x >>= g) := by
  refine Follows.bind (R := Eq) (fun a ha => ⟨a, ha, rfl⟩) ?_
  rintro a _ rfl
  exact hstep a

/-- Both computations succeed, with results related by `R`, or both fail, with failures related by
`E`. -/
inductive Matches (E : ε → ε → Prop) (R : α → β → Prop) : Except ε α → Except ε β → Prop
  | ok {a : α} {b : β} (related : R a b) : Matches E R (.ok a) (.ok b)
  | error {e e' : ε} (related : E e e') : Matches E R (.error e) (.error e')

variable {E : ε → ε → Prop} {x : Except ε α} {y : Except ε β}

theorem Matches.bind (h : Matches E R x y) (hstep : ∀ a b, R a b → Matches E S (f a) (g b)) :
    Matches E S (x >>= f) (y >>= g) := by
  cases h with
  | ok hab => exact hstep _ _ hab
  | error he => exact .error he

theorem Matches.imp {R' : α → β → Prop} (h : Matches E R x y) (hR : ∀ a b, R a b → R' a b) :
    Matches E R' x y := by
  cases h with
  | ok hab => exact .ok (hR _ _ hab)
  | error he => exact .error he

-- Computations whose results are told alike have results that are told alike.
theorem Matches.of_map_eq {f : α → γ} {g : β → γ} (h : y.map g = x.map f) :
    Matches Eq (fun a b => g b = f a) x y := by
  cases x with
  | error e =>
    cases y with
    | error e' => exact .error (Except.error.inj h).symm
    | ok b => cases h
  | ok a =>
    cases y with
    | error e' => cases h
    | ok b => exact .ok (Except.ok.inj h)

-- A result of the first computation is related to one of the second.
theorem Matches.follows (h : Matches E R x y) : Follows R x y := by
  cases h with
  | ok hab => exact .ok hab
  | error _ => exact .error

-- What follows related results alike makes both sequences the same.
theorem Matches.bind_eq {f : α → Except ε γ} {g : β → Except ε γ} (h : Matches Eq R x y)
    (hstep : ∀ a b, R a b → g b = f a) : y >>= g = x >>= f := by
  cases h with
  | ok hab => exact hstep _ _ hab
  | error he => rw [he]; rfl

-- Rewording related failures alike keeps them related.
theorem Matches.mapError {E' : ε' → ε' → Prop} {reword : ε → ε'} (h : Matches E R x y)
    (hreword : ∀ e e', E e e' → E' (reword e) (reword e')) :
    Matches E' R (x.mapError reword) (y.mapError reword) := by
  cases h with
  | ok hab => exact .ok hab
  | error he => exact .error (hreword _ _ he)

end

/-! ## One check after another -/

/-- The check that fails first, and its failure: every check before it succeeds. -/
structure FailsFirst [DecidableEq α] (check : α → Except ε PUnit.{1}) (xs : List α) (x : α)
    (e : ε) : Prop where
  mem : x ∈ xs
  earlier : ∀ y ∈ xs.takeWhile (· ≠ x), check y = .ok ⟨⟩
  fails : check x = .error e

/-- A result reports on checks in an order: there is one when all of them succeed, and otherwise the
failure is that of the check that fails first. -/
structure Reports [DecidableEq α] (xs : List α) (check : α → Except ε PUnit.{1})
    (result : Except ε β) : Prop where
  ok_iff : (∃ b, result = .ok b) ↔ ∀ x ∈ xs, check x = .ok ⟨⟩
  error_iff : ∀ e, result = .error e ↔ ∃ x, FailsFirst check xs x e

theorem forM_cons {check : α → Except ε PUnit.{1}} {x : α} {xs : List α} :
    (x :: xs).forM check = (check x >>= fun _ => xs.forM check) := rfl

-- No check is left out when all succeed.
theorem forM_eq_ok_iff {check : α → Except ε PUnit.{1}} {xs : List α} :
    xs.forM check = .ok ⟨⟩ ↔ ∀ x ∈ xs, check x = .ok ⟨⟩ := by
  induction xs with
  | nil => exact ⟨fun _ _ h => absurd h List.not_mem_nil, fun _ => rfl⟩
  | cons x xs ih =>
    rw [forM_cons, bind_eq_ok_iff, List.forall_mem_cons, ih]
    exact ⟨fun ⟨_, hx, hxs⟩ => ⟨hx, hxs⟩, fun ⟨hx, hxs⟩ => ⟨⟨⟩, hx, hxs⟩⟩

section

variable [DecidableEq α] {check other : α → Except ε PUnit.{1}} {xs : List α} {x y : α} {e : ε}

-- The first check fails first when it fails.
theorem FailsFirst.head (h : check x = .error e) : FailsFirst check (x :: xs) x e := by
  refine ⟨List.mem_cons_self, fun y hy => ?_, h⟩
  rw [List.takeWhile_cons_of_neg (by simp)] at hy
  cases hy

-- A check behind one that succeeds fails first when it fails first among those behind.
theorem failsFirst_cons_iff (h : check y = .ok ⟨⟩) :
    FailsFirst check (y :: xs) x e ↔ FailsFirst check xs x e := by
  constructor
  · intro hfirst
    have hne : y ≠ x := by
      rintro rfl
      rw [hfirst.fails] at h
      cases h
    refine ⟨List.mem_of_ne_of_mem (Ne.symm hne) hfirst.mem, fun z hz => ?_, hfirst.fails⟩
    refine hfirst.earlier z ?_
    rw [List.takeWhile_cons_of_pos (by simpa using hne)]
    exact List.mem_cons_of_mem y hz
  · intro hfirst
    refine ⟨List.mem_cons_of_mem y hfirst.mem, fun z hz => ?_, hfirst.fails⟩
    by_cases hyx : y = x
    · rw [List.takeWhile_cons_of_neg (by simpa using hyx)] at hz
      cases hz
    · rw [List.takeWhile_cons_of_pos (by simpa using hyx)] at hz
      rcases List.mem_cons.1 hz with rfl | hz
      · exact h
      · exact hfirst.earlier z hz

-- The failure of a run is the failure of one check, and no other is asked after it.
theorem forM_eq_error_iff :
    xs.forM check = .error e ↔ ∃ x, FailsFirst check xs x e := by
  induction xs with
  | nil =>
    constructor
    · intro h; cases h
    · rintro ⟨x, hfirst⟩
      cases hfirst.mem
  | cons y xs ih =>
    rw [forM_cons]
    cases hy : check y with
    | error f =>
      constructor
      · intro h
        obtain rfl : f = e := Except.error.inj h
        exact ⟨y, .head hy⟩
      · rintro ⟨x, hfirst⟩
        by_cases hyx : y = x
        · subst hyx
          have hfails := hfirst.fails
          rw [hy] at hfails
          rcases Except.error.inj hfails with rfl
          rfl
        · have hok : check y = .ok ⟨⟩ := hfirst.earlier y (by
            rw [List.takeWhile_cons_of_pos (by simpa using hyx)]
            exact List.mem_cons_self)
          rw [hy] at hok
          cases hok
    | ok u =>
      exact ih.trans (exists_congr fun x => (failsFirst_cons_iff hy).symm)

-- What fails first still does when the checks up to it stay the same, whatever follows.
theorem FailsFirst.congr (h : FailsFirst check xs x e)
    (hsame : ∀ y ∈ xs.takeWhile (· ≠ x) ++ [x], check y = other y) : FailsFirst other xs x e := by
  refine ⟨h.mem, fun y hy => ?_, ?_⟩
  · rw [← hsame y (List.mem_append_left _ hy)]
    exact h.earlier y hy
  · rw [← hsame x (List.mem_append_right _ List.mem_cons_self)]
    exact h.fails

-- Running all checks and then giving a result reports on the checks.
theorem reports_forM (b : β) : Reports xs check (xs.forM check >>= fun _ => .ok b) := by
  constructor
  · rw [← forM_eq_ok_iff]
    constructor
    · rintro ⟨_, h⟩
      rcases bind_eq_ok_iff.1 h with ⟨_, h, -⟩
      exact h
    · intro h
      exact ⟨b, bind_eq_ok_iff.2 ⟨_, h, rfl⟩⟩
  · intro e
    rw [← forM_eq_error_iff, bind_eq_error_iff]
    constructor
    · rintro (h | ⟨_, -, h⟩)
      · exact h
      · cases h
    · exact Or.inl

end

end ApiContract.Result

namespace ApiContract

/-- The computation ends with a result, unless it is stopped by a fault. -/
abbrev Untyped {α : Type} (x : Except Failure α) : Prop :=
  Result.FailsOnly (fun failure => ∃ fault, failure = .fault fault) x

theorem Untyped.stop {α : Type} (fault : Fault) : Untyped (stop fault : Except Failure α) :=
  .error ⟨fault, rfl⟩

end ApiContract
