import ApiContract.Proofs.Body.Negotiation

/-!
# Content types without a name

Negotiation goes by the normalized form of a content type. A text that is not blank can still have an
empty normalized form, such as one of parameters only. It names no media type, but is looked up under
the empty name, whereas a blank text counts as no content type. The two are served alike under a
condition on the entries.
-/

namespace ApiContract.BodyValidator

variable {b : BodyValidator} {unit : String × SchemaUnit} {pattern s t : String}

/-! ## An only unit and several units -/

theorem fst_of_unitFor? (h : b.unitFor? pattern = some unit) : unit.1 = pattern := by
  obtain ⟨found, -, rfl⟩ := Option.map_eq_some_iff.1 h
  rfl

-- An only unit is found under its own pattern and no other.
theorem unitFor?_of_only (h : b.units = [unit]) (pattern : String) :
    b.unitFor? pattern = if unit.1 = pattern then some unit else none := by
  rw [unitFor?, h, List.lookup_cons]
  by_cases hpattern : unit.1 = pattern
  · subst hpattern
    rw [beq_self_eq_true, if_pos rfl]
    rfl
  · rw [beq_false_of_ne (Ne.symm hpattern), if_neg hpattern]
    rfl

theorem findSome?_of_only (h : b.units = [unit]) (patterns : List String) :
    patterns.findSome? b.unitFor? = if unit.1 ∈ patterns then some unit else none := by
  induction patterns with
  | nil => rfl
  | cons pattern rest ih =>
    rw [List.findSome?_cons, unitFor?_of_only h, ih]
    by_cases hpattern : unit.1 = pattern
    · rw [if_pos hpattern, if_pos (List.mem_cons.2 (Or.inl hpattern))]
    · rw [if_neg hpattern]
      simp only [List.mem_cons, hpattern, false_or]

theorem defaultUnit?_of_only (h : b.units = [unit]) : b.defaultUnit? = some unit := by
  rw [defaultUnit?, unitFor?_of_only h]
  by_cases hwildcard : unit.1 = MediaType.wildcard
  · rw [if_pos hwildcard]
  · rw [if_neg hwildcard, h]

-- Of several units, or none, only the one for all types serves bodies without a content type.
theorem defaultUnit?_of_several (h : ∀ unit, b.units ≠ [unit]) :
    b.defaultUnit? = b.unitFor? MediaType.wildcard := by
  rw [defaultUnit?]
  cases b.unitFor? MediaType.wildcard with
  | some unit => rfl
  | none =>
    rcases hunits : b.units with _ | ⟨unit, _ | ⟨next, rest⟩⟩
    · rfl
    · exact absurd hunits (h unit)
    · rfl

-- The unit for all types comes after others unless none of the others is there.
theorem findSome?_eq_wildcard_iff {patterns : List String} (hother : MediaType.wildcard ∉ patterns) :
    (patterns ++ [MediaType.wildcard]).findSome? b.unitFor? = b.unitFor? MediaType.wildcard ↔
      ∀ pattern ∈ patterns, b.unitFor? pattern = none := by
  rw [List.findSome?_append, List.findSome?_singleton, ← List.findSome?_eq_none_iff]
  cases hfound : patterns.findSome? b.unitFor? with
  | none => simp
  | some unit =>
    obtain ⟨pattern, hpattern, hunit⟩ := List.exists_of_findSome?_eq_some hfound
    refine ⟨fun heq => ?_, nofun⟩
    have hwildcard : b.unitFor? MediaType.wildcard = some unit := heq.symm
    have hsame : pattern = MediaType.wildcard :=
      (fst_of_unitFor? hunit).symm.trans (fst_of_unitFor? hwildcard)
    exact absurd (hsame ▸ hpattern) hother

/-! ## The empty name -/

/-- Does the empty name lead to the unit that serves bodies without a content type? An only unit has to
stand under a pattern that the empty name prefers; of several units none may stand under one of these,
except for the one for all types. -/
def ServesNameless (b : BodyValidator) : Prop :=
  match b.units with
  | [unit] => unit.1 ∈ MediaType.preferences ""
  | units => ∀ unit ∈ units, unit.1 ∉ ["", "/*"]

theorem servesNameless_of_only (h : b.units = [unit]) :
    b.ServesNameless ↔ unit.1 ∈ MediaType.preferences "" := by
  rw [ServesNameless, h]

theorem servesNameless_of_several (h : ∀ unit, b.units ≠ [unit]) :
    b.ServesNameless ↔ ∀ pattern ∈ ["", "/*"], b.unitFor? pattern = none := by
  have hnone : ∀ pattern, b.unitFor? pattern = none ↔ ∀ unit ∈ b.units, unit.1 ≠ pattern := by
    intro pattern
    rw [unitFor?, Option.map_eq_none_iff, List.lookup_eq_none_iff]
    exact forall₂_congr fun unit _ => bne_iff_ne.trans ne_comm
  simp only [hnone]
  unfold ServesNameless
  split
  · rename_i unit hunit
    exact absurd hunit (h unit)
  · constructor
    · intro hnot pattern hpattern unit hunit heq
      exact hnot unit hunit (heq ▸ hpattern)
    · intro hnot unit hunit hmem
      exact hnot unit.1 hmem unit hunit rfl

-- The empty name prefers two patterns of its own to the one for all types.
theorem preferences_empty : MediaType.preferences "" = ["", "/*"] ++ [MediaType.wildcard] := by
  decide

theorem nameless_eq_defaultUnit?_iff :
    (MediaType.preferences "").findSome? b.unitFor? = b.defaultUnit? ↔ b.ServesNameless := by
  by_cases honly : ∃ unit, b.units = [unit]
  · obtain ⟨unit, hunit⟩ := honly
    rw [defaultUnit?_of_only hunit, findSome?_of_only hunit, servesNameless_of_only hunit,
      Option.ite_none_right_eq_some, and_iff_left rfl]
  · rw [not_exists] at honly
    rw [defaultUnit?_of_several honly, servesNameless_of_several honly, preferences_empty,
      findSome?_eq_wildcard_iff (by decide)]

/-! ## One normalized form -/

section

variable (h : MediaType.normalize s = MediaType.normalize t)

include h

-- Texts with one normalized form are resolved alike when both are blank or neither is.
theorem resolve_eq_of_isBlank_eq (hblank : isBlank s = isBlank t) :
    b.resolve (some s) = b.resolve (some t) := by
  cases hs : isBlank s with
  | true => rw [resolve_of_blank hs, resolve_of_blank (hblank ▸ hs)]
  | false =>
    rw [resolve_of_not_blank hs, resolve_of_not_blank (hblank ▸ hs), MediaType.preferences,
      MediaType.preferences, h]

-- Only one of the two is blank when they have no name.
theorem resolve_eq_iff_of_blank (hs : isBlank s = false) (ht : isBlank t = true) :
    b.resolve (some s) = b.resolve (some t) ↔ b.ServesNameless := by
  have hname : MediaType.normalize s = "" :=
    h.trans (MediaType.normalize_of_blank (String.isEmpty_iff.1 ht))
  have hpreferences : MediaType.preferences s = MediaType.preferences "" := by
    rw [MediaType.preferences, hname]
    rfl
  rw [resolve_of_not_blank hs, resolve_of_blank ht, hpreferences]
  exact nameless_eq_defaultUnit?_iff

theorem resolve_eq_iff :
    b.resolve (some s) = b.resolve (some t) ↔ isBlank s = isBlank t ∨ b.ServesNameless := by
  by_cases hblank : isBlank s = isBlank t
  · exact ⟨fun _ => Or.inl hblank, fun _ => resolve_eq_of_isBlank_eq h hblank⟩
  · rw [or_iff_right hblank]
    cases hs : isBlank s with
    | false =>
      have ht : isBlank t = true := by simpa [hs] using hblank
      exact resolve_eq_iff_of_blank h hs ht
    | true =>
      have ht : isBlank t = false := by simpa [hs] using hblank
      rw [eq_comm]
      exact resolve_eq_iff_of_blank h.symm ht hs

end

/-- Two failures under two content types: the same one, or each says that its own content type is not
supported. -/
def FailAlike (b : BodyValidator) (s t : String) (f g : Failure) : Prop :=
  f = g ∨ f = b.unsupported (some s) ∧ g = b.unsupported (some t)

-- A body is judged by the unit that serves it.
theorem validate_matches_of_resolve_eq (hresolve : b.resolve (some s) = b.resolve (some t))
    (body : Value) : Result.Matches (b.FailAlike s t) Eq (b.validate body (some s))
      (b.validate body (some t)) := by
  have hself : ∀ x : Except Failure PUnit, Result.Matches (b.FailAlike s t) Eq x x := by
    rintro (failure | u)
    · exact .error (Or.inl rfl)
    · exact .ok rfl
  rw [validate, validate]
  split
  · exact hself _
  · rw [validatePresent, validatePresent, hresolve]
    cases b.resolve (some t) with
    | none => exact .error (Or.inr ⟨rfl, rfl⟩)
    | some unit => exact hself _

/-- Two content types with one normalized form are resolved alike exactly when both are blank or
neither is, or else when the empty name leads to the unit that serves bodies without a content type;
the only texts with a difference between them are those with an empty normalized form. Where both
are resolved alike, every body is accepted under both of them or refused under both, for the same
reason. -/
theorem resolves_by_normalized_form_iff (h : MediaType.normalize s = MediaType.normalize t) :
    (b.resolve (some s) = b.resolve (some t) ↔ isBlank s = isBlank t ∨ b.ServesNameless) ∧
    (MediaType.normalize s ≠ "" → isBlank s = isBlank t) ∧
    (b.resolve (some s) = b.resolve (some t) → ∀ body,
      Result.Matches (b.FailAlike s t) Eq (b.validate body (some s)) (b.validate body (some t))) := by
  refine ⟨resolve_eq_iff h, fun hname => ?_, validate_matches_of_resolve_eq⟩
  rw [isBlank_eq_false_of_normalize_ne hname, isBlank_eq_false_of_normalize_ne (h ▸ hname)]

/-- A content map with a single entry. -/
def jsonOnly : Value := .object [(.str "application/json", .object [])]

-- Case, blanks and parameters make no difference.
theorem jsonOnly_resolved_alike : ∃ b,
    build jsonOnly false (Engine.standard {} none) .request = .ok b ∧
      MediaType.normalize " Application/JSON;q=1" = MediaType.normalize "application/json" ∧
      b.resolve (some " Application/JSON;q=1") = b.resolve (some "application/json") := by
  obtain ⟨b, hb⟩ : ∃ b, build jsonOnly false (Engine.standard {} none) .request = .ok b :=
    Result.exists_of_isOk (by decide +kernel)
  have hsame : MediaType.normalize " Application/JSON;q=1" = MediaType.normalize "application/json" := by
    decide +kernel
  have h := resolves_by_normalized_form_iff (b := b) hsame
  exact ⟨b, hb, hsame, h.1.2 (Or.inl (h.2.1 (by decide +kernel)))⟩

-- Parameters alone have the normalized form of the empty text, but the only entry serves the empty
-- text and not the parameters.
theorem parameters_alone_unsupported : ∃ b,
    build jsonOnly false (Engine.standard {} none) .request = .ok b ∧
      MediaType.normalize "" = MediaType.normalize ";charset=utf-8" ∧
      b.resolve (some "") ≠ b.resolve (some ";charset=utf-8") ∧
      b.validate (.object []) (some "") = .ok ⟨⟩ ∧
      b.validate (.object []) (some ";charset=utf-8") =
        .error (b.unsupported (some ";charset=utf-8")) := by
  obtain ⟨b, hb⟩ : ∃ b, build jsonOnly false (Engine.standard {} none) .request = .ok b :=
    Result.exists_of_isOk (by decide +kernel)
  have hanswers : ((build jsonOnly false (Engine.standard {} none) .request).toOption.any fun b =>
      (b.resolve (some "")).isSome && (b.resolve (some ";charset=utf-8")).isNone &&
        (b.validate (.object []) (some "")).isOk) = true := by decide +kernel
  rw [hb] at hanswers
  obtain ⟨⟨hempty, hparameters⟩, hok⟩ : ((b.resolve (some "")).isSome = true ∧
      b.resolve (some ";charset=utf-8") = none) ∧
        (b.validate (.object []) (some "")).isOk = true := by
    simpa [Except.toOption] using hanswers
  obtain ⟨_, hvalid⟩ := Result.exists_of_isOk hok
  have hrefused : b.validate (.object []) (some ";charset=utf-8") =
      .error (b.unsupported (some ";charset=utf-8")) := by
    rw [validate, if_neg (by decide), validatePresent, hparameters]
    rfl
  refine ⟨b, hb, by decide +kernel, fun heq => ?_, hvalid, hrefused⟩
  rw [heq, hparameters] at hempty
  cases hempty

end ApiContract.BodyValidator
