import ApiContract.Proofs.Schema.Renaming.Prepare
import ApiContract.Proofs.Schema.Renaming.Unevaluated
import ApiContract.Schema.Evaluate

/-!
# Evaluating renamed schemas

Each keyword of a renamed schema finds what it finds in the schema, as both are told, and so does the
whole schema. Where a draft is declared, flags are no keywords, and what only the drafts take for
schemas may be left as it is.
-/

namespace ApiContract

namespace Keyword

/-- What stands under the name of a keyword for a dialect. -/
def place : Keyword → Place
  | .items | .additionalItems | .contains | .unevaluatedItems | .additionalProperties
  | .propertyNames | .unevaluatedProperties | .not | .ifThenElse => .schema
  | .prefixItems | .allOf | .anyOf | .oneOf => .schemaList
  | .properties | .patternProperties | .dependentSchemas => .schemaMap
  | _ => .data

/-- What stands under the name of a keyword for the drafts. -/
def widePlace : Keyword → Place
  | .dependencies => .schemaMap
  | .disallow | .type => .schemaList
  | .extension => .schema
  | keyword => keyword.place

/-- The keyword of a flag. -/
def ofFlag : Visibility → Keyword
  | .readOnly => .readOnly
  | .writeOnly => .writeOnly

/-- The keywords that only drafts check and under which schemas are not renamed. -/
def isOlder : Keyword → Bool
  | .dependencies | .disallow | .extension => true
  | _ => false

variable {ctx : Schema.Context} {dialect : Dialect} {name : String} {keyword : Keyword}

-- Every dialect checks both flags.
theorem named?_flag (dialect : Dialect) (flag : Visibility) :
    named? dialect flag.keyword = some (ofFlag flag) := by
  cases dialect <;> cases flag <;> decide

theorem mem_of_named? (h : named? dialect name = some keyword) :
    (name, keyword) ∈ shared ++ later := by
  cases dialect with
  | v30 =>
    obtain ⟨before, after, hsplit, -⟩ := List.lookup_eq_some_iff.1 h
    rw [hsplit]
    simp
  | v31 =>
    obtain ⟨before, after, hsplit, -⟩ := List.lookup_eq_some_iff.1 h
    rw [hsplit]
    simp

/-- The keywords of all dialects and drafts by name. -/
def everywhere : List (String × Keyword) := shared ++ later ++ groups.flatMap (·.2.2)

theorem mem_everywhere (h : ctx.keyword? name = some keyword) : (name, keyword) ∈ everywhere := by
  unfold Schema.Context.keyword? at h
  split at h
  · exact List.mem_append_left _ (mem_of_named? h)
  · rename_i draft _
    obtain ⟨before, after, hsplit, -⟩ := List.lookup_eq_some_iff.1 h
    have hmem : (name, keyword) ∈ drafted draft := by
      rw [hsplit]
      simp
    obtain ⟨⟨first, last, names⟩, hgroup, hmem⟩ := List.mem_flatMap.1 hmem
    dsimp only at hmem
    split at hmem
    · exact List.mem_append_right _ (List.mem_flatMap.2 ⟨_, hgroup, hmem⟩)
    · cases hmem

theorem place_of_keyword? (h : ctx.keyword? name = some keyword) :
    Place.ofName name = keyword.place ∧ Place.wide (.str name) = keyword.widePlace :=
  (show ∀ q ∈ everywhere, Place.ofName q.1 = q.2.place ∧ Place.wide (.str q.1) = q.2.widePlace by
    decide) _ (mem_everywhere h)

-- Only the names of references are checked as such, and only the flags as flags.
theorem name_of_reference (h : ctx.keyword? name = some .reference) :
    name = "$ref" ∨ name = "$dynamicRef" :=
  (show ∀ q ∈ everywhere, q.2 = .reference → q.1 = "$ref" ∨ q.1 = "$dynamicRef" by decide) _
    (mem_everywhere h) rfl

theorem name_of_recursiveReference (h : ctx.keyword? name = some .recursiveReference) :
    name = "$recursiveRef" :=
  (show ∀ q ∈ everywhere, q.2 = .recursiveReference → q.1 = "$recursiveRef" by decide) _
    (mem_everywhere h) rfl

theorem name_of_flag {flag : Visibility} (h : ctx.keyword? name = some (ofFlag flag)) :
    name = flag.keyword :=
  (show ∀ q ∈ everywhere, ∀ flag : Visibility, q.2 = ofFlag flag → q.1 = flag.keyword by
    decide) _ (mem_everywhere h) flag rfl

-- Without a draft, schemas stand only where a dialect finds them, and nothing leads to the whole.
theorem of_keyword?_of_no_draft (hdraft : ctx.draft = none) (h : ctx.keyword? name = some keyword) :
    keyword.isOlder = false ∧ keyword ≠ .recursiveReference := by
  simp only [Schema.Context.keyword?, hdraft] at h
  exact (show ∀ q ∈ shared ++ later, q.2.isOlder = false ∧ q.2 ≠ .recursiveReference by decide) _
    (mem_of_named? h)

end Keyword

namespace Renaming

open Schema Comparison.Agree

variable {ρ ρ₀ : Renaming} {τ : ρ.Comparison} {τ₀ : ρ₀.Comparison} {p : Scalar → Prop}
  {S : Value → Prop} {revisit : Prop} {dialect : Dialect} {d d' : Direction}
  {draft : Option Draft} {judge judge' : Judge} {judges judges' : Context → Judge}
  {siblings : Fields} {arg root root' : Value} {depth depth' : Nat}

-- A flag under its new name refuses a value where it did, in the other direction.
theorem Comparison.Carries.visibility (h : τ.Carries p d d') {flag : Visibility}
    (hflag : p (.str flag.keyword)) :
    τ.after.outcome (Rule.visibility ⟨dialect, d', root', draft⟩ (ρ.flag flag) arg) =
      τ.before.outcome (Rule.visibility ⟨dialect, d, root, draft⟩ flag arg) := by
  have hallowed := h.allowed flag hflag
  obtain ⟨htold, hdirection⟩ := h.told flag hflag
  simp only [Rule.visibility, Telling.outcome_require, Telling.cause, hallowed, htold, hdirection]

-- The sibling that makes a bound exclusive holds no schema.
theorem inclusiveBound_fields {t t' : Telling} (bound : Bound) (v : Value) :
    t'.outcome (Rule.inclusiveBound ⟨dialect, d', root', draft⟩ (ρ.fields siblings) bound arg v) =
      t.outcome (Rule.inclusiveBound ⟨dialect, d, root, draft⟩ siblings bound arg v) := by
  have hexclusive : Value.lookup (ρ.fields siblings) (Rule.exclusiveName bound) =
      Value.lookup siblings (Rule.exclusiveName bound) := by
    cases bound with
    | least => exact lookup_data (by decide) rfl siblings
    | greatest => exact lookup_data (by decide) rfl siblings
  simp only [Rule.inclusiveBound, hexclusive, Telling.outcome_numberBound]
  rfl

/-- What a renamed schema says under a keyword that holds no schema is told as what the schema says,
but for references and flags. -/
theorem checkKeyword_data {t t' : Telling} {keyword : Keyword} (hplace : keyword.widePlace = .data)
    (hreference : keyword ≠ .reference ∧ keyword ≠ .recursiveReference)
    (hflag : ∀ flag : Visibility, keyword ≠ .ofFlag flag) (v : Value) :
    t'.outcome (checkKeyword ⟨dialect, d', root', draft⟩ judges' depth' (ρ.fields siblings) arg v
        keyword) =
      t.outcome (checkKeyword ⟨dialect, d, root, draft⟩ judges depth siblings arg v keyword) := by
  -- What is found without a schema is told as it is found.
  have hsame : ∀ o : Outcome, (∀ t : Telling, t.outcome o = o) → t'.outcome o = t.outcome o :=
    fun o ho => (ho t').trans (ho t).symm
  cases keyword with
  | multipleOf => exact hsame _ fun t => t.outcome_multipleOf arg v
  | maximum => exact inclusiveBound_fields .greatest v
  | minimum => exact inclusiveBound_fields .least v
  | exclusiveMaximum => exact hsame _ fun t => t.outcome_numberBound arg v .greatest true
  | exclusiveMinimum => exact hsame _ fun t => t.outcome_numberBound arg v .least true
  | maxLength => exact hsame _ fun t => t.outcome_textSize arg v .greatest
  | minLength => exact hsame _ fun t => t.outcome_textSize arg v .least
  | pattern => exact hsame _ fun t => t.outcome_pattern arg v
  | format => exact hsame _ fun t => t.outcome_format arg v _
  | maxItems => exact hsame _ fun t => t.outcome_listSize arg v .greatest
  | minItems => exact hsame _ fun t => t.outcome_listSize arg v .least
  | uniqueItems => exact hsame _ fun t => t.outcome_uniqueItems arg v
  | maxProperties => exact hsame _ fun t => t.outcome_objectSize arg v .greatest
  | minProperties => exact hsame _ fun t => t.outcome_objectSize arg v .least
  | required => exact hsame _ fun t => t.outcome_required arg v
  | dependentRequired => exact hsame _ fun t => t.outcome_dependentRequired arg v
  | enum => exact hsame _ fun t => t.outcome_enum arg v
  | const => exact hsame _ fun t => t.outcome_const arg v
  | reference => exact absurd rfl hreference.1
  | recursiveReference => exact absurd rfl hreference.2
  | readOnly => exact absurd rfl (hflag .readOnly)
  | writeOnly => exact absurd rfl (hflag .writeOnly)
  | _ => cases hplace

/-- The judges of two contexts agree about the schemas of a set, from which nothing leads out but back to
the whole; where a draft is declared, they agree about schemas that are not renamed too. -/
structure Comparison.Continued (τ : ρ.Comparison) (τ₀ : ρ₀.Comparison) (S : Value → Prop)
    (revisit : Prop) (dialect : Dialect) (d d' : Direction) (root root' : Value)
    (draft : Option Draft) (judges judges' : Context → Judge) : Prop where
  agree : τ.Agree S (judges ⟨dialect, d, root, draft⟩) (judges' ⟨dialect, d', root', draft⟩)
  unrenamed : draft ≠ none →
    τ.unrenamed.Agree S (judges ⟨dialect, d, root, draft⟩) (judges' ⟨dialect, d', root', draft⟩)
  leads : ∀ s, S s → LeadsInto S revisit s
  revisits : draft ≠ none → revisit → Revisits τ₀ S dialect d d' root root' judges judges'
  told : τ.before = τ₀.before ∧ τ.after = τ₀.after

namespace Comparison.Continued

-- The whole is judged alike where it is met again.
theorem apply_root (h : τ.Continued τ₀ S revisit dialect d d' root root' draft judges judges')
    (hdraft : draft ≠ none) (hrevisit : revisit) (v : Value) :
    τ.after.outcome ((judges' ⟨dialect, d', root', draft⟩).apply root' v) =
      τ.before.outcome ((judges ⟨dialect, d, root, draft⟩).apply root v) := by
  have hwhole := h.revisits hdraft hrevisit
  obtain ⟨draft, rfl⟩ := Option.ne_none_iff_exists'.1 hdraft
  rw [h.told.1, h.told.2]
  exact (hwhole.agree draft).apply (hwhole.whole ▸ alike_schema hwhole.mem) v

/-- Each keyword but references and flags finds what it found. -/
theorem checkKeyword (h : τ.Continued τ₀ S revisit dialect d d' root root' draft judges judges')
    (hsiblings : LeadsInto S revisit (.object siblings)) {name : String} {keyword : Keyword}
    (hkeyword : Context.keyword? ⟨dialect, d, root, draft⟩ name = some keyword)
    (hinner : ∀ t ∈ keyword.widePlace.schemas arg, S t) (hreference : keyword ≠ .reference)
    (hrecursive : keyword = .recursiveReference → revisit)
    (hflag : ∀ flag : Visibility, keyword ≠ .ofFlag flag)
    (hlevels : draft ≠ none → revisit → depth' = depth)
    (hdepth : SameLevels (Value.object siblings).nodes depth depth') (v : Value) :
    τ.after.outcome (Schema.checkKeyword ⟨dialect, d', root', draft⟩ judges' depth'
        (ρ.fields siblings) (ρ.under keyword.place arg) v keyword) =
      τ.before.outcome (Schema.checkKeyword ⟨dialect, d, root, draft⟩ judges depth siblings arg v
        keyword) := by
  have holder : keyword.isOlder = true → draft ≠ none := by
    intro hold hdraft
    rw [(Keyword.of_keyword?_of_no_draft hdraft hkeyword).1] at hold
    cases hold
  cases keyword with
  | items => exact h.agree.items hinner
  | prefixItems => exact h.agree.prefixItems hinner
  | additionalItems => exact h.agree.additionalItems hinner
  | contains => exact h.agree.contains hinner
  | unevaluatedItems =>
    exact h.agree.unevaluatedItems h.leads h.revisits hsiblings hlevels hdepth v
  | properties => exact h.agree.properties hinner
  | patternProperties => exact h.agree.patternProperties hinner
  | additionalProperties => exact h.agree.additionalProperties hinner
  | propertyNames => exact h.agree.propertyNames hinner
  | dependentSchemas => exact h.agree.dependentSchemas hinner
  | unevaluatedProperties =>
    exact h.agree.unevaluatedProperties h.leads h.revisits hsiblings (alike_under hinner) hlevels
      hdepth v
  | allOf => exact h.agree.allOf hinner
  | anyOf => exact h.agree.anyOf hinner
  | oneOf => exact h.agree.oneOf hinner
  | not => exact h.agree.not hinner
  | ifThenElse => exact h.agree.ifThenElse hsiblings.1 hinner
  | recursiveReference =>
    have hdraft : draft ≠ none :=
      fun hdraft => (Keyword.of_keyword?_of_no_draft hdraft hkeyword).2 rfl
    exact h.apply_root hdraft (hrecursive rfl) v
  | dependencies =>
    rw [show Keyword.place .dependencies = .data from rfl, under_data]
    exact (h.unrenamed (holder rfl)).dependencies hinner
  | disallow =>
    rw [show Keyword.place .disallow = .data from rfl, under_data]
    exact (h.unrenamed (holder rfl)).disallow hinner
  | extension =>
    rw [show Keyword.place .extension = .data from rfl, under_data]
    exact (h.unrenamed (holder rfl)).extension hinner
  | type =>
    rw [show Keyword.place .type = .data from rfl, under_data]
    exact type (fun hdraft => h.unrenamed (hdraft ▸ nofun)) hinner
  | _ =>
    rw [show Keyword.place _ = .data from rfl, under_data]
    exact checkKeyword_data rfl ⟨hreference, nofun⟩ hflag v

-- Under a draft, a flag is no keyword.
theorem checkField_flag (hcarries : draft = none → τ.Carries p d d') {flag : Visibility}
    (hkey : p (.str flag.keyword)) (v : Value) :
    τ.after.outcome (Schema.checkField ⟨dialect, d', root', draft⟩ judges' depth'
        (ρ.fields siblings) v (.str (ρ.flag flag).keyword, arg)) =
      τ.before.outcome (Schema.checkField ⟨dialect, d, root, draft⟩ judges depth siblings v
        (.str flag.keyword, arg)) := by
  rw [Schema.checkField, Schema.checkField]
  cases draft with
  | some draft =>
    rw [Context.keyword?_flag_of_draft rfl, Context.keyword?_flag_of_draft rfl]
    rfl
  | none =>
    have hkeyword : ∀ (ctx : Context) (flag : Visibility), ctx.draft = none →
        ctx.keyword? flag.keyword = some (.ofFlag flag) := by
      intro ctx flag hdraft
      simp only [Context.keyword?, hdraft, Keyword.named?_flag]
    have hvisibility : ∀ (ctx : Context) (judges : Context → Judge) (depth : Nat)
        (siblings : Fields) (flag : Visibility),
        Schema.checkKeyword ctx judges depth siblings arg v (.ofFlag flag) =
          Rule.visibility ctx flag arg := by
      intro ctx judges depth siblings flag
      cases flag <;> rfl
    rw [hkeyword _ _ rfl, hkeyword _ _ rfl]
    dsimp only
    rw [hvisibility, hvisibility]
    exact (hcarries rfl).visibility hkey

-- A field is checked under the name that it has now.
theorem checkField (h : τ.Continued τ₀ S revisit dialect d d' root root' draft judges judges')
    (hcarries : draft = none → τ.Carries p d d')
    (hsiblings : LeadsInto S revisit (.object siblings)) {f : Scalar × Value} (hf : f ∈ siblings)
    (hkey : p f.1) (hlevels : draft ≠ none → revisit → depth' = depth)
    (hdepth : SameLevels (Value.object siblings).nodes depth depth') (v : Value) :
    τ.after.outcome (Schema.checkField ⟨dialect, d', root', draft⟩ judges' depth'
        (ρ.fields siblings) v (ρ.field f)) =
      τ.before.outcome (Schema.checkField ⟨dialect, d, root, draft⟩ judges depth siblings v f) := by
  obtain ⟨key, arg⟩ := f
  obtain ⟨flag, rfl⟩ | hnone := flag_or_ne key
  · rw [field, key_keyword, place_keyword, under_data]
    exact checkField_flag hcarries hkey v
  · rw [field, key_of_ne hnone]
    cases key with
    | str name =>
      rw [Schema.checkField, Schema.checkField]
      dsimp only
      rw [show Context.keyword? ⟨dialect, d', root', draft⟩ name =
        Context.keyword? ⟨dialect, d, root, draft⟩ name from rfl]
      cases hkeyword : Context.keyword? ⟨dialect, d, root, draft⟩ name with
      | none => rfl
      | some keyword =>
        obtain ⟨hplace, hwide⟩ := Keyword.place_of_keyword? hkeyword
        obtain ⟨⟨href, hdynamic⟩, hrecursive⟩ := hsiblings.2 _ hf
        have hinner := hsiblings.1 _ hf
        rw [hwide] at hinner
        rw [show Place.ofKey (.str name) = keyword.place from hplace]
        refine h.checkKeyword hsiblings hkeyword hinner ?_ ?_ ?_ hlevels hdepth v
        · rintro rfl
          obtain rfl | rfl := Keyword.name_of_reference hkeyword
          · exact href rfl
          · exact hdynamic rfl
        · rintro rfl
          exact hrecursive (congrArg _ (Keyword.name_of_recursiveReference hkeyword))
        · rintro flag rfl
          exact hnone flag (congrArg Scalar.str (Keyword.name_of_flag hkeyword))
    | _ => rfl

-- All fields of a schema find what they found.
theorem each_checkField
    (h : τ.Continued τ₀ S revisit dialect d d' root root' draft judges judges')
    (hcarries : draft = none → τ.Carries p d d')
    (hsiblings : LeadsInto S revisit (.object siblings)) (hkeys : ∀ k ∈ keysOfFields siblings, p k)
    (hlevels : draft ≠ none → revisit → depth' = depth)
    (hdepth : SameLevels (Value.object siblings).nodes depth depth') (v : Value) :
    τ.after.outcome (.each (Schema.checkField ⟨dialect, d', root', draft⟩ judges' depth'
        (ρ.fields siblings) v) (ρ.fields siblings)) =
      τ.before.outcome
        (.each (Schema.checkField ⟨dialect, d, root, draft⟩ judges depth siblings v) siblings) := by
  have hfield : ∀ f ∈ siblings, τ.after.outcome (Schema.checkField ⟨dialect, d', root', draft⟩
      judges' depth' (ρ.fields siblings) v (ρ.field f)) =
        τ.before.outcome (Schema.checkField ⟨dialect, d, root, draft⟩ judges depth siblings v f) :=
    fun f hf => h.checkField hcarries hsiblings hf (of_mem_keysOfFields hkeys hf).1 hlevels hdepth v
  have heach := each_map hfield
  rwa [← fields_eq_map] at heach

end Comparison.Continued

/-! ## Levels -/

/-- For a schema whose keys satisfy a condition, both numbers of levels are the same or enough. -/
def Evaluable (p : Scalar → Prop) (depth depth' : Nat) (s : Value) : Prop :=
  SameLevels (s.nodes + 1) depth depth' ∧ ∀ k ∈ keys s, p k

-- An inner schema has fewer nodes, and its keys are among those of the schema.
theorem leadsInto_evaluable (hreference : ∀ k, p k → NoReference k) {n depth depth' : Nat} {s : Value}
    (hkeys : ∀ k ∈ keys s, p k) (hdepth : SameLevels n depth depth') (hn : s.nodes ≤ n) :
    LeadsInto (Evaluable p depth depth') (p (.str "$recursiveRef")) s := by
  cases s with
  | object fields =>
    refine ⟨?_, fun f hf => ?_⟩
    · refine ((allInner_nodes fields).and (allInner_keys hkeys)).imp fun s hs => ⟨?_, hs.2⟩
      exact hdepth.mono (Nat.le_trans hs.1 hn)
    · have hkey := (of_mem_keysOfFields hkeys hf).1
      exact ⟨hreference _ hkey, fun hrecursive => hrecursive ▸ hkey⟩
  | _ => exact True.intro

/-- Schemas whose keys satisfy a condition may lead back to the whole: a recursive reference is one where
a draft is declared. -/
def Recurs (p : Scalar → Prop) : Prop := p (.str "$schema") ∧ p (.str "$recursiveRef")

-- What the judges of all contexts have in common, if those told alike agree.
theorem continued_evaluate (hreference : ∀ k, p k → NoReference k)
    (hwhole : Recurs p → root' = ρ₀.schema root ∧ ∀ k ∈ keys root, p k)
    (hlevels : Recurs p → depth' = depth)
    (hagree : ∀ {ρ : Renaming} (τ : ρ.Comparison) (draft : Option Draft),
      τ.before = τ₀.before ∧ τ.after = τ₀.after → (draft = none → τ.Carries p d d') →
      (draft ≠ none → p (.str "$schema")) →
        τ.Agree (Evaluable p depth depth') (evaluate depth ⟨dialect, d, root, draft⟩)
          (evaluate depth' ⟨dialect, d', root', draft⟩))
    (htold : τ.before = τ₀.before ∧ τ.after = τ₀.after)
    (hcarries : draft = none → τ.Carries p d d') (hdrafted : draft ≠ none → p (.str "$schema")) :
    τ.Continued τ₀ (Evaluable p depth depth') (p (.str "$recursiveRef")) dialect d d' root root'
      draft (evaluate depth) (evaluate depth') where
  agree := hagree τ draft htold hcarries hdrafted
  unrenamed hdraft := hagree τ.unrenamed draft htold (fun hnone => absurd hnone hdraft) hdrafted
  leads s hs := leadsInto_evaluable hreference hs.2 hs.1 (Nat.le_succ _)
  revisits hdraft hrecursive := by
    have hrecurs : Recurs p := ⟨hdrafted hdraft, hrecursive⟩
    obtain ⟨hroot, hkeys⟩ := hwhole hrecurs
    exact ⟨hroot, ⟨.inl (hlevels hrecurs), hkeys⟩,
      fun draft => hagree τ₀ (some draft) ⟨rfl, rfl⟩ nofun fun _ => hrecurs.1⟩
  told := htold

/-- With enough levels left, or with as many, a renamed schema finds what the schema finds. Where a
draft is declared, it does so whatever becomes of the flags. -/
theorem agree_evaluate (hreference : ∀ k, p k → NoReference k)
    (hwhole : Recurs p → root' = ρ₀.schema root ∧ ∀ k ∈ keys root, p k)
    (htold : τ.before = τ₀.before ∧ τ.after = τ₀.after)
    (hcarries : draft = none → τ.Carries p d d') (hdrafted : draft ≠ none → p (.str "$schema"))
    (hlevels : Recurs p → depth' = depth) :
    τ.Agree (Evaluable p depth depth') (evaluate depth ⟨dialect, d, root, draft⟩)
      (evaluate depth' ⟨dialect, d', root', draft⟩) := by
  induction depth generalizing ρ τ draft depth' with
  | zero =>
    rintro fields ⟨hdepth, -⟩ v
    rw [hdepth.eq_zero]
    rfl
  | succ depth ih =>
    rintro fields ⟨hdepth, hkeys⟩ v
    obtain ⟨depth', rfl, hdeeper⟩ := hdepth.exists_succ
    have hlevels : Recurs p → depth' = depth := fun hrecurs => Nat.succ.inj (hlevels hrecurs)
    have hsame : SameLevels (Value.object fields).nodes depth depth' :=
      hdeeper _ (Nat.lt_succ_self _)
    have hnone : Value.lookup fields "$ref" = none :=
      lookup_eq_none_of_keys hkeys fun hkey => (hreference _ hkey).1 rfl
    have hnone' : Value.lookup (ρ.fields fields) "$ref" = none := by
      rw [lookup_data (by decide) rfl, hnone]
    rw [evaluate, evaluate]
    refine ofResult_matches (inside_fields fields) ?_
    rintro _ _ ⟨draft', hkept, hdeclared, rfl, rfl⟩
    rw [Context.applicable_of_lookup hnone, Context.applicable_of_lookup hnone']
    have hcarries : draft' = none → τ.Carries p d d' := fun hdraft => hcarries (hkept hdraft)
    have hdrafted : draft' ≠ none → p (.str "$schema") := by
      intro hdraft
      obtain hdraft | hfound := hdeclared hdraft
      · exact hdrafted hdraft
      · by_contra hschema
        exact hfound (lookup_eq_none_of_keys hkeys hschema)
    have hcontinued := continued_evaluate hreference hwhole hlevels
      (fun _ _ htold hcarries hdrafted => ih htold hcarries hdrafted hlevels) htold hcarries hdrafted
    exact hcontinued.each_checkField hcarries
      (leadsInto_evaluable hreference hkeys hsame (Nat.le_refl _)) hkeys
      (fun hdraft hrecursive => hlevels ⟨hdrafted hdraft, hrecursive⟩) hsame v

namespace Comparison.Carries

/-- A whole schema that is renamed finds what the schema finds. -/
theorem agree_checkFields (h : τ.Carries p d d')
    (hwhole : Recurs p → root' = ρ.schema root ∧ ∀ k ∈ keys root, p k)
    (hlevels : Recurs p → depth' = depth) :
    τ.Agree (fun s => SameLevels s.nodes depth depth' ∧ ∀ k ∈ keys s, p k)
      (checkFields ⟨dialect, d, root, none⟩ depth)
      (checkFields ⟨dialect, d', root', none⟩ depth') := by
  rintro fields ⟨hdepth, hkeys⟩ v
  have hcontinued : τ.Continued τ (Evaluable p depth depth') (p (.str "$recursiveRef")) dialect d d'
      root root' none (evaluate depth) (evaluate depth') :=
    continued_evaluate h.noReference hwhole hlevels
      (fun _ _ htold hcarries hdrafted =>
        agree_evaluate h.noReference hwhole htold hcarries hdrafted hlevels)
      ⟨rfl, rfl⟩ (fun _ => h) (absurd rfl)
  exact hcontinued.each_checkField (fun _ => h)
    (leadsInto_evaluable h.noReference hkeys hdepth (Nat.le_refl _)) hkeys (absurd rfl) hdepth v

/-- Checking a value against a renamed schema finds what checking it against the schema finds. -/
theorem check_schema (h : τ.Carries p d d') (hkeys : ∀ k ∈ keys root, p k) (v : Value) :
    τ.after.outcome (Schema.check dialect d' (ρ.schema root) v) =
      τ.before.outcome (Schema.check dialect d root v) := by
  have hlevels : levels (ρ.schema root) v = levels root v := by
    rw [levels, levels, nodes_schema]
  rw [Schema.check, Schema.check, hlevels]
  exact (h.agree_checkFields (fun _ => ⟨rfl, hkeys⟩) fun _ => rfl).apply
    (alike_schema ⟨.inl rfl, hkeys⟩) v

end Comparison.Carries

end Renaming

end ApiContract
