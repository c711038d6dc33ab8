import ApiContract.Proofs.Schema.Renaming.Evaluate
import ApiContract.Schema.Engine

/-!
# The two directions are mirror images

What a schema is compiled into for one direction answers as what its mirror image is compiled into for
the other direction: `Engine.compiles_mirror_images`. The mirror image has the two flags exchanged, in
the schema and in every schema inside it.
-/

namespace ApiContract

namespace Renaming

variable {ρ : Renaming} {τ : ρ.Comparison} {t : Telling} {p : Scalar → Prop} {d d' : Direction}
  {schema : Value}

/-! ## Compiling renamed schemas -/

/-- A verdict with its violations as they are told. -/
def Telling.verdict (t : Telling) (a : Verdict) : Verdict :=
  { a with violations := a.violations.map t.violation }

/-- A check with its verdicts as they are told. -/
def Telling.check (t : Telling) (check : Check) : Check := fun v => (check v).map t.verdict

-- The same violations are asked for.
theorem verdict_outcome (options : EngineOptions) (o : Outcome) :
    Engine.verdict options (t.outcome o) = (Engine.verdict options o).map t.verdict := by
  have hasked : (if options.allErrors then (t.outcome o).all else (t.outcome o).first) =
      (if options.allErrors then o.all else o.first).map (List.map t.violation) := by
    rw [Telling.all_outcome, Telling.first_outcome]
    split <;> rfl
  rw [Engine.verdict, Engine.verdict, hasked]
  cases (if options.allErrors then o.all else o.first) with
  | error f => rfl
  | ok violations => simp only [Except.map, Telling.verdict, List.isEmpty_map]

theorem isSchema_schema (schema : Value) :
    Engine.isSchema (ρ.schema schema) = Engine.isSchema schema := by
  cases schema with
  | scalar s => rw [schema_scalar]
  | list items => rw [schema_list]
  | object fields => rw [schema_object]; rfl

theorem isBool_schema (schema : Value) : (ρ.schema schema).isBool = schema.isBool := by
  cases schema with
  | scalar s => rw [schema_scalar]
  | list items => rw [schema_list]
  | object fields => rw [schema_object]; rfl

-- What is no schema is not renamed.
theorem schema_of_not_isSchema (h : Engine.isSchema schema = false) :
    ρ.schema schema = schema := by
  cases schema with
  | scalar s => exact schema_scalar s
  | list items => exact schema_list items
  | object fields => cases h

-- The checks that a prepared schema and the renamed one are compiled into answer alike.
theorem Comparison.Carries.check_told (h : τ.Carries p d d') {prepared : Value}
    (hkept : ∀ k ∈ Schema.keys prepared, p k) (options : EngineOptions) (dialect : Dialect) :
    τ.after.check (fun v => Engine.verdict options
        (Schema.check dialect d' (ρ.schema prepared) v)) =
      τ.before.check fun v => Engine.verdict options (Schema.check dialect d prepared v) := by
  funext v
  rw [Telling.check, Telling.check, ← verdict_outcome, ← verdict_outcome, h.check_schema hkept]

/-- For the direction to which the renaming leads, the renamed schema is compiled when the schema is,
or fails as it does; what the checks answer is told alike. -/
theorem Comparison.Carries.compileSchema (h : τ.Carries p d d')
    (hkeys : ∀ k ∈ Schema.keys schema, p k) (options : EngineOptions) (version : Option String) :
    (Engine.compileSchema options version d' (ρ.schema schema)).map τ.after.check =
      (Engine.compileSchema options version d schema).map τ.before.check := by
  have hprepared : Schema.preparedFor d' (ρ.schema schema) =
      (Schema.preparedFor d schema).map ρ.schema := h.prepare_schema [] schema hkeys
  unfold Engine.compileSchema
  simp only [isSchema_schema, isBool_schema, hprepared, problems_schema]
  cases hprepare : Schema.preparedFor d schema with
  | error f =>
    simp only [Except.map]
    cases hvalue : Engine.isSchema schema with
    | false => rw [schema_of_not_isSchema hvalue]; rfl
    | true =>
      cases options.strict with
      | false => rfl
      | true => cases Schema.problems (Dialect.ofVersion version) schema <;> rfl
  | ok prepared =>
    have hkept : ∀ k ∈ Schema.keys prepared, p k := of_mem_keys_prepare schema hprepare hkeys
    have htold := h.check_told hkept options (Dialect.ofVersion version)
    -- From here on it does not matter what the checks are, only that they are told alike.
    dsimp only [Except.map]
    generalize (fun v => Engine.verdict options
      (Schema.check (Dialect.ofVersion version) d' (ρ.schema prepared) v)) = check' at htold ⊢
    generalize (fun v => Engine.verdict options
      (Schema.check (Dialect.ofVersion version) d prepared v)) = check at htold ⊢
    generalize τ.after.check = tell' at htold ⊢
    generalize τ.before.check = tell at htold ⊢
    have hchecks : Except.map tell' (if Dialect.ofVersion version = .v30 ∧ schema.isBool then
          stop .wrongShape else .ok check') =
        Except.map tell (if Dialect.ofVersion version = .v30 ∧ schema.isBool then
          stop .wrongShape else .ok check) := by
      split
      · rfl
      · exact congrArg Except.ok htold
    cases hvalue : Engine.isSchema schema with
    | false => rw [schema_of_not_isSchema hvalue]; rfl
    | true =>
      cases options.strict with
      | false => exact hchecks
      | true =>
        cases Schema.problems (Dialect.ofVersion version) schema with
        | nil => exact hchecks
        | cons first rest => rfl

/-! ### Nothing told otherwise -/

theorem check_plain (check : Check) : Telling.plain.check check = check := by
  have hverdict : ∀ a : Verdict, Telling.plain.verdict a = a := by
    intro a
    rw [Telling.verdict, List.map_congr_left fun w _ => Telling.violation_plain w, List.map_id']
  funext v
  rw [Telling.check]
  cases check v with
  | error e => rfl
  | ok a => exact congrArg Except.ok (hverdict a)

-- A schema without flags is compiled into the same check for either direction.
theorem compileSchema_eq_of_noFlag (hkeys : ∀ k ∈ Schema.keys schema, NoFlag k)
    (options : EngineOptions) (version : Option String) :
    Engine.compileSchema options version d' schema =
      Engine.compileSchema options version d schema := by
  have hplain : ∀ x : Except Failure Check, x.map Telling.plain.check = x := by
    intro x
    cases x with
    | error e => rfl
    | ok check => exact congrArg Except.ok (check_plain check)
  have hcompile := (plain_carries d d').compileSchema hkeys options version
  simp only [schema_identity] at hcompile
  exact (hplain _).symm.trans (hcompile.trans (hplain _))

end Renaming

/-! ## Mirror images -/

/-- Both violations stand in the same place, and where one is that of a flag, the other is that of
the opposite flag in the opposite direction. -/
def Violation.Mirrors (w w' : Violation) : Prop :=
  w'.path = w.path ∧ ∀ flag direction,
    w.cause = .hidden flag direction ↔ w'.cause = .hidden flag.opposite direction.opposite

/-- Both verdicts are the same, with violations that mirror each other one by one. -/
structure Verdict.Mirrors (a a' : Verdict) : Prop where
  valid : a'.valid = a.valid
  violations : List.Forall₂ Violation.Mirrors a.violations a'.violations

namespace Renaming

-- Violations that are told alike mirror each other.
theorem mirrors_violation {w w' : Violation}
    (h : Comparison.mirrored.after.violation w' = Comparison.mirrored.before.violation w) :
    w.Mirrors w' := by
  obtain ⟨path, c⟩ := w
  obtain ⟨path', c'⟩ := w'
  obtain ⟨hpath, hcause⟩ := Violation.mk.inj h
  refine ⟨hpath, fun flag direction => ?_⟩
  have hbefore : Comparison.mirrored.before.cause c = .hidden flag.opposite direction.opposite ↔
      c = .hidden flag direction := by
    cases c with
    | hidden flag' direction' =>
      simp only [Comparison.mirrored, Telling.cause, Cause.hidden.injEq]
      cases flag <;> cases flag' <;> cases direction <;> cases direction' <;> decide
    | _ => constructor <;> (intro hc; cases hc)
  have hafter : Comparison.mirrored.after.cause c' = .hidden flag.opposite direction.opposite ↔
      c' = .hidden flag.opposite direction.opposite := by
    cases c' with
    | hidden => exact Iff.rfl
    | _ => constructor <;> (intro hc; cases hc)
  rw [← hbefore, ← hcause, hafter]

theorem mirrors_verdict {a a' : Verdict}
    (h : Comparison.mirrored.after.verdict a' = Comparison.mirrored.before.verdict a) :
    a.Mirrors a' := by
  obtain ⟨hvalid, hviolations⟩ := Verdict.mk.inj h
  have hpairs : List.Forall₂ Eq (a.violations.map Comparison.mirrored.before.violation)
      (a'.violations.map Comparison.mirrored.after.violation) := by
    rw [List.forall₂_eq_eq_eq, hviolations]
  rw [List.forall₂_map_left_iff, List.forall₂_map_right_iff] at hpairs
  exact ⟨hvalid, hpairs.imp fun w w' hw => mirrors_violation hw.symm⟩

end Renaming

/-- For every schema without references, and whatever the options and the version, the check that is
compiled for one direction and the one that the mirror image is compiled into for the other answer
every value alike: with the same failure, or with violations in the same places, where those of one
flag stand for those of the other. Both are compiled or neither, with the same failure, and strict mode
finds the same problems in both. A schema without flags is its own mirror image. -/
theorem Engine.compiles_mirror_images {schema : Value}
    (hkeys : ∀ k ∈ Schema.keys schema, Renaming.NoReference k) (options : EngineOptions)
    (version : Option String) (d : Direction) :
    Result.Matches Eq
        (fun check check' : Check => ∀ v, Result.Matches Eq Verdict.Mirrors (check v) (check' v))
        (compileSchema options version d schema)
        (compileSchema options version d.opposite (Renaming.mirror.schema schema)) ∧
      (∀ dialect, Schema.problems dialect (Renaming.mirror.schema schema) =
        Schema.problems dialect schema) ∧
      ((∀ k ∈ Schema.keys schema, ∀ flag : Visibility, k ≠ .str flag.keyword) →
        compileSchema options version d.opposite schema =
          compileSchema options version d schema) := by
  refine ⟨?_, fun dialect => Renaming.problems_schema dialect schema, fun hflags => ?_⟩
  · have htold := (Renaming.mirrored_carries d).compileSchema hkeys options version
    refine (Result.Matches.of_map_eq htold).imp fun check check' hcheck v => ?_
    have hv := congrFun hcheck v
    exact (Result.Matches.of_map_eq hv).imp fun a a' ha => Renaming.mirrors_verdict ha
  · exact Renaming.compileSchema_eq_of_noFlag (fun k hk => ⟨hkeys k hk, hflags k hk⟩) options version

/-- A pet whose id the server chooses and whose secret it never tells; the secret is declared in a
branch, and the id is required. -/
def petWithFlags : Value :=
  .object [(.str "required", .list [.str "id", .str "secret"]),
    (.str "allOf", .list [.object [(.str "properties", .object
      [(.str "secret", .object [(.str "writeOnly", .bool true)])])]]),
    (.str "properties", .object [(.str "id", .object [(.str "readOnly", .bool true)])])]

-- A request must not name the id; a response to the mirror image must not either.
theorem Engine.mirror_image_of_petWithFlags :
    (∀ k ∈ Schema.keys petWithFlags, Renaming.NoReference k) ∧
      ∃ check check' : Check,
        compileSchema ⟨true, true⟩ none .request petWithFlags = .ok check ∧
        compileSchema ⟨true, true⟩ none .response (Renaming.mirror.schema petWithFlags) =
          .ok check' ∧
        check (.object [(.str "id", .int 1), (.str "secret", .str "s")]) =
          .ok ⟨false, [⟨[.member "id"], .hidden .readOnly .request⟩]⟩ ∧
        ∃ w, check' (.object [(.str "id", .int 1), (.str "secret", .str "s")]) = .ok ⟨false, [w]⟩ ∧
          w.path = [.member "id"] ∧ w.cause = .hidden .writeOnly .response := by
  have hkeys : ∀ k ∈ Schema.keys petWithFlags, Renaming.NoReference k := by
    unfold Renaming.NoReference
    decide
  have hanswer : (compileSchema ⟨true, true⟩ none .request petWithFlags >>= fun check =>
      check (.object [(.str "id", .int 1), (.str "secret", .str "s")])) =
        .ok ⟨false, [⟨[.member "id"], .hidden .readOnly .request⟩]⟩ := by decide +kernel
  obtain ⟨check, hcheck, hv⟩ := Result.bind_eq_ok_iff.1 hanswer
  obtain ⟨check', hcheck', hchecks⟩ :=
    (compiles_mirror_images hkeys ⟨true, true⟩ none .request).1.follows check hcheck
  obtain ⟨⟨valid, violations⟩, hv', hmirrors⟩ := (hchecks _).follows _ hv
  obtain rfl : valid = false := hmirrors.valid
  cases hmirrors.violations with
  | cons hw hrest =>
    cases hrest with
    | nil =>
      exact ⟨hkeys, check, check', hcheck, hcheck', hv, _, hv', hw.1,
        (hw.2 .readOnly .request).1 rfl⟩

end ApiContract
