import ApiContract.Proofs.Schema.Position
import ApiContract.Proofs.Schema.Renaming.Telling

/-!
# Judges of renamed schemas

Two judges can agree on the schemas of a set and the renamed ones: they say the same of them, as both
are told. They agree, then, on what stands where a rule looks for a schema.
-/

namespace ApiContract

namespace Renaming

/-! ## Schemas and judges -/

/-- Where a schema is expected, one value has taken the place of the other: both are the same scalar,
both are lists, which are no schemas, or one is the other renamed, a schema of a set. -/
inductive Alike (ρ : Renaming) (S : Value → Prop) : Value → Value → Prop
  | scalar (s : Scalar) : Alike ρ S (.scalar s) (.scalar s)
  | list {items items' : List Value} (h : items.isEmpty = items'.isEmpty) :
    Alike ρ S (.list items) (.list items')
  | object {fields : Fields} (h : S (.object fields)) :
    Alike ρ S (.object fields) (.object (ρ.fields fields))

variable {ρ : Renaming}

/-- The second judge says of a renamed schema what the first one says of the schema, for the schemas of
a set, as both are told. -/
def Comparison.Agree (τ : ρ.Comparison) (S : Value → Prop) (judge judge' : Schema.Judge) : Prop :=
  ∀ fields, S (.object fields) → ∀ v,
    τ.after.outcome (judge' (ρ.fields fields) v) = τ.before.outcome (judge fields v)

variable {τ : ρ.Comparison} {S T : Value → Prop} {judge judge' : Schema.Judge} {s s' v : Value}

theorem alike_schema (h : S s) : Alike ρ S s (ρ.schema s) := by
  cases s with
  | scalar s => rw [schema_scalar]; exact .scalar s
  | list items => rw [schema_list]; exact .list rfl
  | object fields => rw [schema_object]; exact .object h

theorem alike_under (h : ∀ t ∈ Place.schema.schemas s, S t) :
    Alike ρ S s (ρ.under .schema s) := by
  cases s with
  | scalar s => rw [under_scalar]; exact .scalar s
  | list items =>
    simp only [under]
    refine .list ?_
    rw [schemas_eq_map, List.isEmpty_map]
  | object fields =>
    simp only [under]
    exact .object (h _ (List.mem_singleton_self _))

theorem Alike.mono (h : ρ.Alike S s s') (hST : ∀ s, S s → T s) : ρ.Alike T s s' := by
  cases h with
  | scalar s => exact .scalar s
  | list h => exact .list h
  | object h => exact .object (hST _ h)

-- What stands in the place of a schema counts as true when the schema does.
theorem Alike.truthy_eq (h : ρ.Alike S s s') : s'.truthy = s.truthy := by
  cases h with
  | scalar s => rfl
  | list h => rw [Value.truthy, Value.truthy, h]
  | object => rw [Value.truthy, Value.truthy, fields_eq_map, List.isEmpty_map]

namespace Comparison.Agree

theorem mono (h : τ.Agree T judge judge') (hST : ∀ s, S s → T s) : τ.Agree S judge judge' :=
  fun fields hfields => h fields (hST _ hfields)

theorem apply (h : τ.Agree S judge judge') (hs : ρ.Alike S s s') (v : Value) :
    τ.after.outcome (judge'.apply s' v) = τ.before.outcome (judge.apply s v) := by
  cases hs with
  | scalar s =>
    unfold Schema.Judge.apply
    split
    · contradiction
    · rfl
    · rfl
    · rfl
  | list => rfl
  | object hfields => exact h _ hfields v

-- Where nothing is renamed, a schema is alike itself.
theorem apply_unrenamed (h : τ.unrenamed.Agree S judge judge') (hs : S s) (v : Value) :
    τ.after.outcome (judge'.apply s v) = τ.before.outcome (judge.apply s v) := by
  have happly := h.apply (alike_schema hs) v
  rwa [schema_identity] at happly

theorem holds (h : τ.Agree S judge judge') (hs : ρ.Alike S s s') (v : Value) :
    judge'.holds s' v = judge.holds s v := by
  rw [Schema.Judge.holds, Schema.Judge.holds, ← Telling.holds_outcome (t := τ.after),
    h.apply hs, Telling.holds_outcome]

-- As many violations are found.
theorem all_matches (h : τ.Agree S judge judge') (hs : ρ.Alike S s s') (v : Value) :
    Result.Matches Eq (fun violations violations' => violations'.length = violations.length)
      (judge.apply s v).all (judge'.apply s' v).all := by
  have hlength := congrArg (fun o => o.all.map List.length) (h.apply hs v)
  simp only [Telling.length_all_outcome] at hlength
  exact .of_map_eq hlength

-- The schema `false` is the same value as before.
theorem applyAt (h : τ.Agree S judge judge') (hs : ρ.Alike S s s') (step : Step) (v : Value) :
    τ.after.outcome (judge'.applyAt step s' v) = τ.before.outcome (judge.applyAt step s v) := by
  have happly := h.apply hs v
  unfold Schema.Judge.applyAt
  cases hs with
  | scalar s =>
    split
    · rfl
    · rw [Telling.outcome_under, Telling.outcome_under, happly]
  | list => rw [Telling.outcome_under, Telling.outcome_under, happly]
  | object => rw [Telling.outcome_under, Telling.outcome_under, happly]

end Comparison.Agree

/-! ### What a keyword holds -/

section

open Schema

-- Where a list of schemas is expected, the parts of another value are scalars.
theorem partsOf_under (arg : Value) :
    partsOf (ρ.under .schemaList arg) = (partsOf arg).map (List.map ρ.schema) := by
  cases arg with
  | list items => simp only [under, partsOf, Except.map, schemas_eq_map]
  | object fields =>
    simp only [under, partsOf, Except.map, List.map_map, Function.comp_def, schema_scalar]
  | scalar s =>
    rw [under_scalar]
    cases s with
    | str text =>
      simp only [partsOf, Except.map, List.map_map, Function.comp_def, schema_scalar]
    | _ => rfl

-- A value has as many parts as before.
theorem length_partsOf_under (place : Place) (arg : Value) :
    (partsOf (ρ.under place arg)).map List.length = (partsOf arg).map List.length := by
  cases arg with
  | scalar s => rw [under_scalar]
  | list items => cases place <;> simp [under, partsOf, Except.map, schemas_eq_map]
  | object fields =>
    cases place <;> simp [under, partsOf, Except.map, members_eq_map, fields_eq_map]

theorem alike_of_partsOf {arg : Value} {parts : List Value}
    (h : ∀ t ∈ Place.schemaList.schemas arg, S t) (hparts : partsOf arg = .ok parts) :
    ∀ s ∈ parts, ρ.Alike S s (ρ.schema s) := by
  intro s hs
  cases arg with
  | list items =>
    obtain rfl := Except.ok.inj hparts
    exact alike_schema (h s hs)
  | object fields =>
    obtain rfl := Except.ok.inj hparts
    obtain ⟨f, -, rfl⟩ := List.mem_map.1 hs
    rw [schema_scalar]
    exact .scalar f.1
  | scalar s =>
    cases s with
    | str text =>
      obtain rfl := Except.ok.inj hparts
      obtain ⟨c, -, rfl⟩ := List.mem_map.1 hs
      rw [schema_scalar]
      exact .scalar _
    | _ => cases hparts

theorem membersOf_under (arg : Value) :
    membersOf (ρ.under .schemaMap arg) = (membersOf arg).map ρ.members := by
  cases arg with
  | scalar s => rw [under_scalar]; rfl
  | list items => rfl
  | object fields => rfl

theorem of_mem_membersOf {arg : Value} {members : Fields}
    (h : ∀ t ∈ Place.schemaMap.schemas arg, S t) (hmembers : membersOf arg = .ok members) :
    ∀ f ∈ members, S f.2 := by
  intro f hf
  cases arg with
  | object fields =>
    obtain rfl := Except.ok.inj hmembers
    exact h _ (List.mem_map_of_mem hf)
  | _ => cases hmembers

-- Names under which there is no schema lead to what they led to.
theorem lookup_data {name : String} (hname : ∀ flag : Visibility, name ≠ flag.keyword)
    (hplace : Place.ofName name = .data) (fields : Fields) :
    Value.lookup (ρ.fields fields) name = Value.lookup fields name := by
  rw [lookup_fields hname, hplace]
  cases Value.lookup fields name with
  | none => rfl
  | some v => rw [Option.map_some, under_data]

/-! ### Lists -/

variable {α β : Type}

theorem filterM_map {ok : α → Except Fault Bool} {ok' : β → Except Fault Bool} {f : α → β}
    {xs : List α} (h : ∀ x ∈ xs, ok' (f x) = ok x) :
    filterM ok' (xs.map f) = (filterM ok xs).map (List.map f) := by
  induction xs with
  | nil => rfl
  | cons x rest ih =>
    obtain ⟨hx, hrest⟩ := List.forall_mem_cons.1 h
    simp only [List.map_cons, filterM, hx, ih hrest, Result.map_bind, Result.bind_map,
      Result.map_pure]
    refine Result.bind_congr fun keep _ => Result.bind_congr fun kept _ => ?_
    cases keep <;> rfl

theorem anyM_eq {ok ok' : α → Except Fault Bool} {xs : List α} (h : ∀ x ∈ xs, ok' x = ok x) :
    anyM ok' xs = anyM ok xs := by
  induction xs with
  | nil => rfl
  | cons x rest ih =>
    obtain ⟨hx, hrest⟩ := List.forall_mem_cons.1 h
    simp only [anyM, hx, ih hrest]

end

end Renaming

end ApiContract
