import ApiContract.Proofs.Schema.Renaming.Judge
import ApiContract.Schema.Rule.Branch

/-!
# Rules that combine schemas, under renamed schemas

When two judges agree, so do the rules that apply several schemas to one value, a schema under a
condition, or schemas among the names of types.
-/

namespace ApiContract

namespace Renaming

namespace Comparison.Agree

open Schema Telling

variable {ρ : Renaming} {τ : ρ.Comparison} {S : Value → Prop} {judge judge' : Judge}
  {s s' v : Value} {arg : Value} {parts : List Value} {siblings : Fields} {dialect : Dialect}
  {d d' : Direction} {root root' : Value} {draft : Option Draft}

theorem allOf (h : τ.Agree S judge judge') (hinner : ∀ t ∈ Place.schemaList.schemas arg, S t) :
    τ.after.outcome (Rule.allOf judge' (ρ.under .schemaList arg) v) =
      τ.before.outcome (Rule.allOf judge arg v) := by
  simp only [Rule.allOf, partsOf_under, Result.bind_map]
  refine ofResult_congr fun parts hparts => ?_
  have halike : ∀ s ∈ parts, ρ.Alike S s (ρ.schema s) := alike_of_partsOf hinner hparts
  exact each_map fun s hs => h.apply (halike s hs) v

-- The same branch comes first.
theorem firstBranch? (h : τ.Agree S judge judge')
    (hparts : ∀ s ∈ parts, ρ.Alike S s (ρ.schema s)) :
    Rule.firstBranch? judge' v (parts.map ρ.schema) =
      (Rule.firstBranch? judge v parts).map
        (Option.map fun b => (ρ.schema b.1, b.2.map ρ.schema)) := by
  induction parts with
  | nil => rfl
  | cons s rest ih =>
    obtain ⟨hs, hrest⟩ := List.forall_mem_cons.1 hparts
    simp only [List.map_cons, Rule.firstBranch?, Result.map_bind]
    refine (h.all_matches hs v).bind_eq fun violations violations' hlength => ?_
    rw [show violations'.isEmpty = violations.isEmpty by
      cases violations <;> cases violations' <;> first | rfl | cases hlength]
    split
    · rfl
    · exact ih hrest

theorem anyOf (h : τ.Agree S judge judge') (hinner : ∀ t ∈ Place.schemaList.schemas arg, S t) :
    τ.after.outcome (Rule.anyOf judge' (ρ.under .schemaList arg) v) =
      τ.before.outcome (Rule.anyOf judge arg v) := by
  simp only [Rule.anyOf, partsOf_under, Result.bind_map]
  refine ofResult_congr fun parts hparts => ?_
  simp only [h.firstBranch? (alike_of_partsOf hinner hparts), Result.bind_map, Option.isSome_map]
  exact ofResult_congr fun found _ => require_congr rfl

-- The same schemas hold.
theorem filterM_holds (h : τ.Agree S judge judge')
    (hparts : ∀ s ∈ parts, ρ.Alike S s (ρ.schema s)) :
    filterM (fun s => judge'.holds s v) (parts.map ρ.schema) =
      (filterM (fun s => judge.holds s v) parts).map (List.map ρ.schema) :=
  filterM_map fun s hs => h.holds (hparts s hs) v

-- The schemas behind the first branch are among all of them.
theorem mem_of_firstBranch? {s : Value} {rest : List Value}
    (hfirst : Rule.firstBranch? judge v parts = .ok (some (s, rest))) : ∀ t ∈ rest, t ∈ parts := by
  induction parts with
  | nil => cases hfirst
  | cons t others ih =>
    rw [Rule.firstBranch?] at hfirst
    obtain ⟨violations, -, hfirst⟩ := Result.bind_eq_ok_iff.1 hfirst
    split at hfirst
    · cases hfirst
      exact fun t ht => List.mem_cons_of_mem _ ht
    · exact fun t ht => List.mem_cons_of_mem _ (ih hfirst t ht)

theorem oneOf (h : τ.Agree S judge judge') (hinner : ∀ t ∈ Place.schemaList.schemas arg, S t) :
    τ.after.outcome (Rule.oneOf judge' (ρ.under .schemaList arg) v) =
      τ.before.outcome (Rule.oneOf judge arg v) := by
  simp only [Rule.oneOf, partsOf_under, Result.bind_map]
  refine ofResult_congr fun parts hparts => ?_
  have halike : ∀ s ∈ parts, ρ.Alike S s (ρ.schema s) := alike_of_partsOf hinner hparts
  simp only [h.firstBranch? halike, Result.bind_map]
  refine ofResult_congr fun found hfound => ?_
  cases found with
  | none => rfl
  | some b =>
    have hrest : ∀ s ∈ b.2, ρ.Alike S s (ρ.schema s) :=
      fun s hs => halike s (mem_of_firstBranch? hfound s hs)
    simp only [Option.map_some, h.filterM_holds hrest, Result.bind_map]
    refine ofResult_congr fun others _ => ?_
    have hquoted : ∀ schemas : List Value, (schemas.map ρ.schema).map τ.after.quoted =
        schemas.map τ.before.quoted := by
      intro schemas
      simp only [List.map_map, Function.comp_def, τ.renamed]
    have hcause := hquoted (others ++ [b.1])
    rw [List.map_append] at hcause
    rw [List.isEmpty_map]
    exact require_congr (congrArg (Cause.manyBranches v) hcause)

-- A list in place of the schema stops the rule before it is reported.
theorem not (h : τ.Agree S judge judge') (hinner : ∀ t ∈ Place.schema.schemas arg, S t) :
    τ.after.outcome (Rule.not judge' (ρ.under .schema arg) v) =
      τ.before.outcome (Rule.not judge arg v) := by
  simp only [Rule.not, h.holds (alike_under hinner)]
  cases arg with
  | list items => rfl
  | scalar s =>
    rw [under_scalar]
    exact ofResult_congr fun holds _ => require_congr (congrArg (Cause.excluded v) (τ.kept _))
  | object fields =>
    have hquoted := τ.renamed (.object fields)
    rw [schema_object] at hquoted
    exact ofResult_congr fun holds _ => require_congr (congrArg (Cause.excluded v) hquoted)

theorem extension (h : τ.unrenamed.Agree S judge judge')
    (hinner : ∀ t ∈ Place.schema.schemas arg, S t) :
    τ.after.outcome (Rule.extension judge' arg v) =
      τ.before.outcome (Rule.extension judge arg v) := by
  unfold Rule.extension
  split
  · exact h.apply_unrenamed (hinner _ (List.mem_singleton_self _)) v
  · rename_i hobject
    have hlist : ∀ t ∈ Place.schemaList.schemas arg, S t := by
      cases arg with
      | list items => exact hinner
      | object fields => exact absurd rfl (hobject fields)
      | scalar s =>
        intro t ht
        cases ht
    have hall := h.allOf (v := v) hlist
    rwa [under_identity] at hall

/-! ### Conditions -/

theorem chosen_fields (holds : Bool) :
    Rule.chosen (ρ.fields siblings) holds =
      (Rule.chosen siblings holds).map (ρ.under .schema) := by
  cases holds with
  | true => exact lookup_fields (by decide) siblings
  | false => exact lookup_fields (by decide) siblings

theorem inner_of_chosen (hsiblings : AllInner S siblings) {holds : Bool}
    (hs : Rule.chosen siblings holds = some s) : ∀ t ∈ Place.schema.schemas s, S t := by
  cases holds with
  | true => exact hsiblings.lookup hs
  | false => exact hsiblings.lookup hs

theorem ifThenElse (h : τ.Agree S judge judge') (hsiblings : AllInner S siblings)
    (hinner : ∀ t ∈ Place.schema.schemas arg, S t) :
    τ.after.outcome (Rule.ifThenElse judge' (ρ.fields siblings) (ρ.under .schema arg) v) =
      τ.before.outcome (Rule.ifThenElse judge siblings arg v) := by
  simp only [Rule.ifThenElse, h.holds (alike_under hinner), chosen_fields]
  refine ofResult_congr fun holds _ => ?_
  cases hchosen : Rule.chosen siblings holds with
  | none => rfl
  | some s => exact h.apply (alike_under (inner_of_chosen hsiblings hchosen)) v

/-! ### Types -/

-- The names of types are scalars, and the schemas among them are not renamed.
theorem isOfTypeOrSchema (h : τ.unrenamed.Agree S judge judge')
    (hs : ∀ fields, s = .object fields → S s) :
    Rule.isOfTypeOrSchema ⟨dialect, d', root', draft⟩ judge' v s =
      Rule.isOfTypeOrSchema ⟨dialect, d, root, draft⟩ judge v s := by
  unfold Rule.isOfTypeOrSchema
  split
  · rfl
  · have hall := h.all_matches (alike_schema (hs _ rfl)) v
    rw [schema_identity] at hall
    refine hall.bind_eq fun violations violations' hlength => ?_
    cases violations <;> cases violations' <;> first | rfl | cases hlength
  · rfl

-- The names of types are scalars.
theorem inner_of_typesOf {types : List Value} (hinner : ∀ t ∈ Place.schemaList.schemas arg, S t)
    (htypes : Rule.typesOf arg = .ok types) :
    ∀ s ∈ types, ∀ fields, s = .object fields → S s := by
  rintro s hs fields rfl
  unfold Rule.typesOf at htypes
  split at htypes
  · obtain rfl := Except.ok.inj htypes
    cases List.mem_singleton.1 hs
  · have halike : identity.Alike S (.object fields) _ := alike_of_partsOf hinner htypes _ hs
    cases halike with
    | object h => exact h

theorem anyTypeOrSchema (h : τ.unrenamed.Agree S judge judge')
    (hinner : ∀ t ∈ Place.schemaList.schemas arg, S t) :
    τ.after.outcome (Rule.anyTypeOrSchema ⟨dialect, d', root', draft⟩ judge' arg v) =
      τ.before.outcome (Rule.anyTypeOrSchema ⟨dialect, d, root, draft⟩ judge arg v) := by
  refine ofResult_congr fun types htypes => ?_
  rw [anyM_eq fun s hs => h.isOfTypeOrSchema (inner_of_typesOf hinner htypes s hs)]
  exact ofResult_congr fun found _ => require_congr rfl

theorem disallow (h : τ.unrenamed.Agree S judge judge')
    (hinner : ∀ t ∈ Place.schemaList.schemas arg, S t) :
    τ.after.outcome (Rule.disallow ⟨dialect, d', root', draft⟩ judge' arg v) =
      τ.before.outcome (Rule.disallow ⟨dialect, d, root, draft⟩ judge arg v) := by
  refine ofResult_congr fun types htypes => each_eq fun s hs => ?_
  rw [h.isOfTypeOrSchema (inner_of_typesOf hinner htypes s hs)]
  exact ofResult_congr fun found _ => require_congr rfl

-- The sibling that admits null holds no schema.
theorem type (h : draft = some .draft3 → τ.unrenamed.Agree S judge judge')
    (hinner : ∀ t ∈ Place.schemaList.schemas arg, S t) :
    τ.after.outcome
        (Rule.type ⟨dialect, d', root', draft⟩ judge' (ρ.fields siblings) arg v) =
      τ.before.outcome (Rule.type ⟨dialect, d, root, draft⟩ judge siblings arg v) := by
  have hnullable : Value.lookup (ρ.fields siblings) "nullable" =
      Value.lookup siblings "nullable" := lookup_data (by decide) rfl siblings
  unfold Rule.type
  dsimp only
  split
  · rw [outcome_singleType, outcome_singleType, Rule.singleType, Rule.singleType, hnullable]
    rfl
  · exact (h rfl).anyTypeOrSchema hinner
  · rw [outcome_anyType, outcome_anyType]
    rfl

end Comparison.Agree

end Renaming

end ApiContract
