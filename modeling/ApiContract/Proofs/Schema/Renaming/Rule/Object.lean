import ApiContract.Proofs.Schema.Renaming.Judge

/-!
# Rules about objects, under renamed schemas

When two judges agree, so do the rules that apply schemas to the properties of an object or to their
names.
-/

namespace ApiContract

namespace Renaming

namespace Comparison.Agree

open Schema Telling

variable {ρ : Renaming} {τ : ρ.Comparison} {S : Value → Prop} {judge judge' : Judge}
  {s s' v : Value} {arg : Value} {siblings : Fields} {dialect : Dialect} {d d' : Direction}
  {root root' : Value} {draft : Option Draft} {t t' : Telling}

theorem property (h : τ.Agree S judge judge') (hs : ρ.Alike S s s') (key : Scalar)
    (fields : Fields) :
    τ.after.outcome (Rule.property judge' fields (key, s')) =
      τ.before.outcome (Rule.property judge fields (key, s)) := by
  cases key with
  | str name =>
    simp only [Rule.property]
    cases Value.lookup fields name with
    | none => rfl
    | some v => exact h.applyAt hs (.member name) v
  | _ => rfl

-- Whether a property has to be there is no schema.
theorem propertyOrMissing (h : τ.Agree S judge judge') (hs : S s) (key : Scalar)
    (fields : Fields) :
    τ.after.outcome (Rule.propertyOrMissing judge' fields (key, ρ.schema s)) =
      τ.before.outcome (Rule.propertyOrMissing judge fields (key, s)) := by
  unfold Rule.propertyOrMissing
  dsimp only
  split
  · exact h.property (alike_schema hs) key fields
  · cases s with
    | scalar s => rw [schema_scalar]; rfl
    | list items => rw [schema_list]; rfl
    | object members =>
      have hrequired : Value.lookup (ρ.fields members) "required" =
          Value.lookup members "required" := lookup_data (by decide) rfl members
      have hmembers : ∀ fields, membersOf (.object fields) = pure fields := fun _ => rfl
      simp only [schema_object, hmembers, pure_bind, hrequired, outcome_ofResult, Result.map_pure,
        outcome_under, outcome_require, cause]

theorem properties (h : τ.Agree S judge judge')
    (hinner : ∀ t ∈ Place.schemaMap.schemas arg, S t) :
    τ.after.outcome
        (Rule.properties ⟨dialect, d', root', draft⟩ judge' (ρ.under .schemaMap arg) v) =
      τ.before.outcome (Rule.properties ⟨dialect, d, root, draft⟩ judge arg v) := by
  unfold Rule.properties
  split
  · simp only [membersOf_under, Result.bind_map, members_eq_map]
    refine ofResult_congr fun members hmembers => ?_
    have hmembers : ∀ f ∈ members, S f.2 := of_mem_membersOf hinner hmembers
    by_cases hdraft : draft = some .draft3
    · rw [if_pos hdraft, if_pos hdraft]
      exact each_map fun f hf => h.propertyOrMissing (hmembers f hf) f.1 _
    · rw [if_neg hdraft, if_neg hdraft]
      exact each_map fun f hf => h.property (alike_schema (hmembers f hf)) f.1 _
  · rfl

theorem patternProperties (h : τ.Agree S judge judge')
    (hinner : ∀ t ∈ Place.schemaMap.schemas arg, S t) :
    τ.after.outcome (Rule.patternProperties judge' (ρ.under .schemaMap arg) v) =
      τ.before.outcome (Rule.patternProperties judge arg v) := by
  unfold Rule.patternProperties
  split
  · simp only [membersOf_under, Result.bind_map, members_eq_map]
    refine ofResult_congr fun members hmembers => ?_
    have hmembers : ∀ f ∈ members, S f.2 := of_mem_membersOf hinner hmembers
    refine each_map fun f hf => each_eq fun q _ => ofResult_congr fun found _ => ?_
    cases found with
    | false => rfl
    | true => exact h.applyAt (alike_schema (hmembers f hf)) (.member q.1) q.2
  · rfl

theorem propertyNames (h : τ.Agree S judge judge')
    (hinner : ∀ t ∈ Place.schema.schemas arg, S t) :
    τ.after.outcome (Rule.propertyNames judge' (ρ.under .schema arg) v) =
      τ.before.outcome (Rule.propertyNames judge arg v) := by
  unfold Rule.propertyNames
  split
  · exact each_eq fun q _ => h.apply (alike_under hinner) (.str q.1)
  · rfl

-- Which demands a property brings in depends on names.
theorem demandsMet_members (fields members : Fields) :
    Rule.demandsMet fields (ρ.members members) =
      (Rule.demandsMet fields members).map fun f => (f.1, ρ.schema f.2) := by
  rw [members_eq_map, Rule.demandsMet, Rule.demandsMet, List.filter_map]
  rfl

theorem dependentSchemas (h : τ.Agree S judge judge')
    (hinner : ∀ t ∈ Place.schemaMap.schemas arg, S t) :
    τ.after.outcome (Rule.dependentSchemas judge' (ρ.under .schemaMap arg) v) =
      τ.before.outcome (Rule.dependentSchemas judge arg v) := by
  unfold Rule.dependentSchemas
  split
  · simp only [membersOf_under, Result.bind_map, demandsMet_members]
    refine ofResult_congr fun members hmembers => ?_
    have hmembers : ∀ f ∈ members, S f.2 := of_mem_membersOf hinner hmembers
    refine each_map fun f hf => ?_
    exact h.apply (alike_schema (hmembers f (List.mem_filter.1 hf).1)) _
  · rfl

-- The schemas among the demands are not renamed.
theorem dependency (h : τ.unrenamed.Agree S judge judge') (key : Scalar) (hs : S s)
    (fields : Fields) :
    τ.after.outcome (Rule.dependency ⟨dialect, d', root', draft⟩ judge' fields (key, s)) =
      τ.before.outcome (Rule.dependency ⟨dialect, d, root, draft⟩ judge fields (key, s)) := by
  unfold Rule.dependency
  dsimp only
  split
  · rw [outcome_namesAsked, outcome_namesAsked]
  · exact h.apply_unrenamed hs _
  · rw [outcome_namesAsked, outcome_namesAsked]
  · rw [outcome_namesAsked, outcome_namesAsked]
  · exact h.apply_unrenamed hs _

theorem dependencies (h : τ.unrenamed.Agree S judge judge')
    (hinner : ∀ t ∈ Place.schemaMap.schemas arg, S t) :
    τ.after.outcome (Rule.dependencies ⟨dialect, d', root', draft⟩ judge' arg v) =
      τ.before.outcome (Rule.dependencies ⟨dialect, d, root, draft⟩ judge arg v) := by
  unfold Rule.dependencies
  split
  · refine ofResult_congr fun members hmembers => each_eq fun f hf => ?_
    exact h.dependency f.1 (of_mem_membersOf hinner hmembers f (List.mem_filter.1 hf).1) _
  · rfl

/-! ### Extra properties -/

-- A property is declared by its name.
theorem isDeclared_fields (name : String) :
    Rule.isDeclared (Value.lookup (ρ.fields siblings) "properties") name =
      Rule.isDeclared (Value.lookup siblings "properties") name := by
  rw [lookup_fields (by decide), show Place.ofName "properties" = .schemaMap from rfl]
  cases Value.lookup siblings "properties" with
  | none => rfl
  | some declared =>
    cases declared with
    | scalar s => rw [Option.map_some, under_scalar]
    | list items => rfl
    | object members => exact congrArg Except.ok (hasField_members members name)

-- Patterns are keys, which are kept.
theorem partsOf_patterns (patterns : Value) :
    partsOf (ρ.under .schemaMap patterns) = partsOf patterns := by
  cases patterns with
  | scalar s => rw [under_scalar]
  | list items => rfl
  | object members =>
    simp only [under, members_eq_map, partsOf, List.map_map]
    rfl

theorem lookup_patterns : Value.lookup (ρ.fields siblings) "patternProperties" =
    (Value.lookup siblings "patternProperties").map (ρ.under .schemaMap) :=
  lookup_fields (by decide) siblings

theorem extraProperties_fields (fields : Fields) :
    Rule.extraProperties (ρ.fields siblings) fields = Rule.extraProperties siblings fields := by
  have hjoined : Rule.joinedPatterns (ρ.fields siblings) = Rule.joinedPatterns siblings := by
    rw [Rule.joinedPatterns, Rule.joinedPatterns, lookup_patterns]
    cases Value.lookup siblings "patternProperties" with
    | none => rfl
    | some patterns => simp only [Option.map_some, partsOf_patterns]
  simp only [Rule.extraProperties, hjoined, isDeclared_fields]

-- The prohibition is told as it is found.
theorem forbiddenProperties_fields (extra : List (String × Value)) :
    t'.outcome (Rule.forbiddenProperties (ρ.fields siblings) extra) =
      t.outcome (Rule.forbiddenProperties siblings extra) := by
  rw [Rule.forbiddenProperties, Rule.forbiddenProperties, lookup_patterns]
  cases Value.lookup siblings "patternProperties" with
  | none => rfl
  | some patterns =>
    simp only [Option.map_some, Rule.listedPatterns, partsOf_patterns]
    exact ofResult_congr fun listed _ => rfl

theorem eachProperty (h : τ.Agree S judge judge') (hs : ρ.Alike S s s')
    (extra : List (String × Value)) :
    τ.after.outcome (Rule.eachProperty judge' s' extra) =
      τ.before.outcome (Rule.eachProperty judge s extra) :=
  each_eq fun q _ => h.applyAt hs (.member q.1) q.2

theorem additionalProperties (h : τ.Agree S judge judge')
    (hinner : ∀ t ∈ Place.schema.schemas arg, S t) :
    τ.after.outcome (Rule.additionalProperties ⟨dialect, d', root', draft⟩ judge'
        (ρ.fields siblings) (ρ.under .schema arg) v) =
      τ.before.outcome
        (Rule.additionalProperties ⟨dialect, d, root, draft⟩ judge siblings arg v) := by
  have hs : ρ.Alike S arg (ρ.under .schema arg) := alike_under hinner
  have hreading : Context.reading ⟨dialect, d', root', draft⟩ =
      Context.reading ⟨dialect, d, root, draft⟩ := rfl
  unfold Rule.additionalProperties
  split
  · simp only [extraProperties_fields, hreading]
    refine ofResult_congr fun extra _ => ?_
    have htruthy := hs.truthy_eq
    have heach := h.eachProperty hs extra
    have hallowed : τ.after.outcome (if (ρ.under .schema arg).truthy || extra.isEmpty then .valid
          else Rule.forbiddenProperties (ρ.fields siblings) extra) =
        τ.before.outcome (if arg.truthy || extra.isEmpty then .valid
          else Rule.forbiddenProperties siblings extra) := by
      rw [htruthy]
      split
      · rfl
      · exact forbiddenProperties_fields extra
    generalize ρ.under .schema arg = arg' at hs heach hallowed
    cases hs with
    | object => exact heach
    | list =>
      cases Context.reading ⟨dialect, d, root, draft⟩ with
      | v30 => rfl
      | v31 => exact hallowed
    | scalar s =>
      cases Context.reading ⟨dialect, d, root, draft⟩ with
      | v30 =>
        split
        · contradiction
        · exact require_congr rfl
        · rfl
        · contradiction
      | v31 =>
        split
        · contradiction
        · contradiction
        · contradiction
        · exact hallowed
  · rfl

end Comparison.Agree

end Renaming

end ApiContract
