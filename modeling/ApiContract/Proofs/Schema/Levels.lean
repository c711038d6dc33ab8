import ApiContract.Proofs.Schema.Outcome
import ApiContract.Proofs.Schema.Renaming.Evaluate

/-!
# Schemas that stand alone

A schema without references needs no more levels than it has nodes. With that many left, what it finds
depends neither on how many there are nor on the schema in which it stands, unless it declares a draft:
a draft counts inside another schema only.
-/

namespace ApiContract

namespace Schema

/-- Nothing that the schema says depends on where it stands: it has no references, none of those among
them that lead to the whole where a draft is declared, and declares no draft for itself. -/
structure StandsAlone (schema : Value) : Prop where
  noReference : ∀ k ∈ keys schema, Renaming.NoReference k
  noRecursion : (∀ k ∈ keys schema, k ≠ .str "$schema") ∨
    ∀ k ∈ keys schema, k ≠ .str "$recursiveRef"
  noDraft : ∀ fields, schema = .object fields → Draft.declared? fields = .ok none

variable {dialect : Dialect} {d : Direction} {root s prepared v : Value} {depth : Nat}

-- Where no schema names a draft, there is nothing but references to look for.
theorem standsAlone_of_keys
    (hkeys : ∀ k ∈ keys s, Renaming.NoReference k ∧ k ≠ .str "$schema") : StandsAlone s := by
  constructor
  case noReference => exact fun k hk => (hkeys k hk).1
  case noRecursion => exact .inl fun k hk => (hkeys k hk).2
  case noDraft =>
    rintro fields rfl
    rw [Draft.declared?, lookup_eq_none_of_keys hkeys fun hkey => hkey.2 rfl]

-- A prepared schema stands alone when the schema does.
theorem StandsAlone.prepare {flag : Visibility} {inherited : List String} (h : StandsAlone s)
    (hprepare : prepare flag inherited s = .ok prepared) : StandsAlone prepared := by
  constructor
  case noReference => exact Renaming.of_mem_keys_prepare s hprepare h.noReference
  case noRecursion =>
    exact h.noRecursion.imp (Renaming.of_mem_keys_prepare s hprepare)
      (Renaming.of_mem_keys_prepare s hprepare)
  case noDraft =>
    rintro kept rfl
    obtain ⟨hother, rfl⟩ | ⟨fields, kept, rfl, hkept, hprepare⟩ := prepare_cases hprepare
    · cases hother
    · obtain rfl := Value.object.inj hkept
      rw [declared?_prepareFields hprepare]
      exact h.noDraft fields rfl

/-! ## Levels -/

-- The levels with which a check starts are enough.
theorem nodes_lt_levels (s v : Value) : s.nodes + 1 < levels s v := by
  have hs : 0 < s.nodes := s.nodes_pos
  have hv : 3 ≤ 2 * v.nodes + 1 := by
    have := v.nodes_pos
    omega
  have hproduct : 7 * s.nodes * 3 ≤ 7 * s.nodes * (2 * v.nodes + 1) := Nat.mul_le_mul_left _ hv
  rw [levels]
  omega

-- The keys of the schema satisfy a condition under which nothing leads out of it.
theorem StandsAlone.exists_keys (h : StandsAlone s) : ∃ p : Scalar → Prop,
    (∀ k, p k → Renaming.NoReference k) ∧ ¬ Renaming.Recurs p ∧ ∀ k ∈ keys s, p k := by
  obtain hkeys | hkeys := h.noRecursion
  · exact ⟨fun k => Renaming.NoReference k ∧ k ≠ .str "$schema", fun k hk => hk.1,
      fun hrecurs => hrecurs.1.2 rfl, fun k hk => ⟨h.noReference k hk, hkeys k hk⟩⟩
  · exact ⟨fun k => Renaming.NoReference k ∧ k ≠ .str "$recursiveRef", fun k hk => hk.1,
      fun hrecurs => hrecurs.2.2 rfl, fun k hk => ⟨h.noReference k hk, hkeys k hk⟩⟩

/-- Inside another schema, a schema that stands alone finds what it finds on its own. -/
theorem apply_eq_check (h : StandsAlone s) (hdepth : s.nodes + 1 < depth) :
    (evaluate depth ⟨dialect, d, root, none⟩).apply s v = check dialect d s v := by
  obtain ⟨below, rfl⟩ : ∃ below, depth = below + 1 := ⟨depth - 1, by omega⟩
  cases s with
  | scalar s => exact Judge.apply_eq_of_not_object _ rfl
  | list items => rfl
  | object fields =>
    obtain ⟨p, hreference, hrecurs, hkeys⟩ := h.exists_keys
    have henough : Renaming.SameLevels (Value.object fields).nodes (levels (.object fields) v) below :=
      .inr ⟨Nat.lt_of_succ_lt (nodes_lt_levels _ _), Nat.lt_of_succ_lt_succ hdepth⟩
    have hagree : Renaming.Telling.plain.outcome
          (checkFields ⟨dialect, d, root, none⟩ below (Renaming.identity.fields fields) v) =
        Renaming.Telling.plain.outcome (check dialect d (.object fields) v) :=
      (Renaming.plain_carries_self d hreference).agree_checkFields (absurd · hrecurs)
        (absurd · hrecurs) fields ⟨henough, hkeys⟩ v
    rw [Renaming.Telling.outcome_plain, Renaming.Telling.outcome_plain,
      Renaming.fields_identity] at hagree
    rw [← hagree]
    exact evaluate_eq_checkFields rfl (h.noDraft fields rfl)

end Schema

end ApiContract
