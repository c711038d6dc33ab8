import ApiContract.Proofs.Schema.Renaming.Judge

/-!
# Rules about lists, under renamed schemas

When two judges agree, so do the rules that apply schemas to the items of a list.
-/

namespace ApiContract

namespace Renaming

namespace Comparison.Agree

open Schema Telling

variable {ρ : Renaming} {τ : ρ.Comparison} {S : Value → Prop} {judge judge' : Judge}
  {s s' v : Value} {arg : Value} {siblings : Fields} {dialect : Dialect} {d d' : Direction}
  {root root' : Value} {draft : Option Draft}

theorem eachItem (h : τ.Agree S judge judge') (hs : ρ.Alike S s s') (start : Nat)
    (items : List Value) :
    τ.after.outcome (Rule.eachItem judge' s' start items) =
      τ.before.outcome (Rule.eachItem judge s start items) :=
  each_eq fun q _ => h.applyAt hs (.index q.2) q.1

theorem itemsByPosition (h : τ.Agree S judge judge')
    (hinner : ∀ t ∈ Place.schemaList.schemas arg, S t) (items : List Value) :
    τ.after.outcome (Rule.itemsByPosition judge' (ρ.under .schemaList arg) items) =
      τ.before.outcome (Rule.itemsByPosition judge arg items) := by
  simp only [Rule.itemsByPosition, partsOf_under, Result.bind_map]
  refine ofResult_congr fun parts hparts => ?_
  have halike : ∀ s ∈ parts, ρ.Alike S s (ρ.schema s) := alike_of_partsOf hinner hparts
  rw [List.zip_map_right, List.zipIdx_map]
  refine each_map fun q hq => ?_
  have hmem : q.1.2 ∈ parts := (List.of_mem_zip (List.fst_mem_of_mem_zipIdx hq)).2
  exact h.applyAt (halike _ hmem) (.index q.2) q.1.1

-- As many positions have a schema of their own.
theorem positions_fields {name : String} (hname : ∀ flag : Visibility, name ≠ flag.keyword) :
    Rule.positions (ρ.fields siblings) name = Rule.positions siblings name := by
  rw [Rule.positions, Rule.positions, lookup_fields hname]
  cases Value.lookup siblings name with
  | none => rfl
  | some v => exact length_partsOf_under (Place.ofName name) v

theorem itemsBehind (h : τ.Agree S judge judge') (hs : ρ.Alike S s s') (items : List Value) :
    τ.after.outcome (Rule.itemsBehind judge' (ρ.fields siblings) s' items) =
      τ.before.outcome (Rule.itemsBehind judge siblings s items) := by
  have hpositions : Rule.positions (ρ.fields siblings) "prefixItems" =
      Rule.positions siblings "prefixItems" := positions_fields (by decide)
  rw [Rule.itemsBehind, Rule.itemsBehind, hpositions]
  refine ofResult_congr fun n _ => ?_
  have heach := h.eachItem hs n (items.drop n)
  generalize items.drop n = extra at heach
  cases extra with
  | nil => rfl
  | cons item rest =>
    cases hs with
    | list => exact heach
    | object => exact heach
    | scalar s =>
      dsimp only
      split
      · rfl
      · rfl
      · exact heach

-- Everything but a single schema is renamed as a list of schemas is.
theorem under_of_isPositional (ρ : Renaming) {draft : Draft}
    (hpositional : Rule.isPositional draft arg = true) :
    ρ.under .schema arg = ρ.under .schemaList arg ∧
      ∀ t ∈ Place.schemaList.schemas arg, t ∈ Place.schema.schemas arg := by
  cases arg with
  | scalar s => exact ⟨by rw [under_scalar, under_scalar], nofun⟩
  | list items => exact ⟨by simp only [under], fun t ht => ht⟩
  | object fields => simp [Rule.isPositional, Value.isObject, Value.items?] at hpositional

theorem isPositional_under (draft : Draft) :
    Rule.isPositional draft (ρ.under .schema arg) = Rule.isPositional draft arg := by
  cases arg with
  | scalar s => rw [under_scalar]
  | list items => rfl
  | object fields => rfl

theorem items (h : τ.Agree S judge judge') (hinner : ∀ t ∈ Place.schema.schemas arg, S t) :
    τ.after.outcome (Rule.items ⟨dialect, d', root', draft⟩ judge' (ρ.fields siblings)
        (ρ.under .schema arg) v) =
      τ.before.outcome (Rule.items ⟨dialect, d, root, draft⟩ judge siblings arg v) := by
  unfold Rule.items
  split
  · dsimp only
    split
    · exact h.eachItem (alike_under hinner) 0 _
    · exact h.itemsBehind (alike_under hinner) _
    · exact h.itemsBehind (alike_under hinner) _
    · rw [isPositional_under]
      split
      · rename_i hpositional
        obtain ⟨hunder, hlist⟩ := under_of_isPositional ρ hpositional
        rw [hunder]
        exact h.itemsByPosition (fun t ht => hinner t (hlist t ht)) _
      · exact h.eachItem (alike_under hinner) 0 _
  · rfl

theorem prefixItems (h : τ.Agree S judge judge')
    (hinner : ∀ t ∈ Place.schemaList.schemas arg, S t) :
    τ.after.outcome (Rule.prefixItems judge' (ρ.under .schemaList arg) v) =
      τ.before.outcome (Rule.prefixItems judge arg v) := by
  unfold Rule.prefixItems
  split
  · exact h.itemsByPosition hinner _
  · rfl

-- The prohibition is told as it is found.
theorem extraItems (h : τ.Agree S judge judge') (hs : ρ.Alike S s s') (start : Nat)
    (items : List Value) :
    τ.after.outcome (Rule.extraItems judge' s' start items) =
      τ.before.outcome (Rule.extraItems judge s start items) := by
  have heach := h.eachItem hs start items
  have htruthy := hs.truthy_eq
  unfold Rule.extraItems
  cases hs with
  | object => exact heach
  | list =>
    rw [htruthy]
    exact require_congr rfl
  | scalar s => exact require_congr rfl

theorem additionalItems (h : τ.Agree S judge judge')
    (hinner : ∀ t ∈ Place.schema.schemas arg, S t) :
    τ.after.outcome (Rule.additionalItems judge' (ρ.fields siblings) (ρ.under .schema arg) v) =
      τ.before.outcome (Rule.additionalItems judge siblings arg v) := by
  have hpositions : Rule.positions (ρ.fields siblings) "items" = Rule.positions siblings "items" :=
    positions_fields (by decide)
  have hlookup : Value.lookup (ρ.fields siblings) "items" =
      (Value.lookup siblings "items").map (ρ.under .schema) := lookup_fields (by decide) siblings
  simp only [Rule.additionalItems, hpositions, hlookup]
  cases v with
  | scalar s => rfl
  | object fields => rfl
  | list items =>
    have hextra : ∀ n, τ.after.outcome (Rule.extraItems judge' (ρ.under .schema arg) n _) = _ :=
      fun n => h.extraItems (alike_under hinner) n (items.drop n)
    cases Value.lookup siblings "items" with
    | none => rfl
    | some first =>
      cases first with
      | object fields => rfl
      | list schemas => exact ofResult_congr fun n _ => hextra n
      | scalar s =>
        rw [Option.map_some, under_scalar]
        exact ofResult_congr fun n _ => hextra n

/-! ### Items that have to occur -/

theorem countMatches (h : τ.Agree S judge judge') (hs : ρ.Alike S s s') (greatest : Value)
    (count : Nat) (items : List Value) :
    Rule.countMatches judge' s' greatest count items =
      Rule.countMatches judge s greatest count items := by
  induction items generalizing count with
  | nil => rfl
  | cons v rest ih => simp only [Rule.countMatches, h.holds hs, ih]

theorem maybeSchema_alike (hs : ρ.Alike S s s') : Rule.maybeSchema s' = Rule.maybeSchema s := by
  cases hs <;> rfl

theorem containsCounted (h : τ.Agree S judge judge')
    (hinner : ∀ t ∈ Place.schema.schemas arg, S t) :
    τ.after.outcome (Rule.containsCounted judge' (ρ.fields siblings) (ρ.under .schema arg) v) =
      τ.before.outcome (Rule.containsCounted judge siblings arg v) := by
  have hs : ρ.Alike S arg (ρ.under .schema arg) := alike_under hinner
  have hlimit : ∀ name ∈ ["minContains", "maxContains"], ∀ fallback,
      Rule.limitOf (ρ.fields siblings) name fallback = Rule.limitOf siblings name fallback := by
    intro name hname fallback
    have hnames : ∀ name ∈ ["minContains", "maxContains"],
        (∀ flag : Visibility, name ≠ flag.keyword) ∧ Place.ofName name = .data := by decide
    rw [Rule.limitOf, Rule.limitOf, lookup_data (hnames name hname).1 (hnames name hname).2]
  unfold Rule.containsCounted
  split
  · simp only [hlimit "minContains" (by decide), hlimit "maxContains" (by decide),
      maybeSchema_alike hs, h.countMatches hs]
    split
    · rfl
    · refine ofResult_congr fun count _ => ?_
      cases count with
      | none => rfl
      | some count =>
        refine ofResult_congr fun few _ => ?_
        cases few with
        | false => rfl
        | true =>
          by_cases hcount : count = 0
          · simp only [if_pos hcount]
            rfl
          · simp only [if_neg hcount]
            rfl
  · rfl

theorem containsSome (h : τ.Agree S judge judge') (hs : ρ.Alike S s s') :
    τ.after.outcome (Rule.containsSome judge' s' v) =
      τ.before.outcome (Rule.containsSome judge s v) := by
  unfold Rule.containsSome
  split
  · rw [anyM_eq fun item _ => h.holds hs item]
    exact ofResult_congr fun found _ => require_congr rfl
  · rfl

theorem contains (h : τ.Agree S judge judge') (hinner : ∀ t ∈ Place.schema.schemas arg, S t) :
    τ.after.outcome (Rule.contains ⟨dialect, d', root', draft⟩ judge' (ρ.fields siblings)
        (ρ.under .schema arg) v) =
      τ.before.outcome (Rule.contains ⟨dialect, d, root, draft⟩ judge siblings arg v) := by
  unfold Rule.contains
  dsimp only
  split
  · exact h.containsSome (alike_under hinner)
  · exact h.containsSome (alike_under hinner)
  · exact h.containsCounted hinner

end Comparison.Agree

end Renaming

end ApiContract
