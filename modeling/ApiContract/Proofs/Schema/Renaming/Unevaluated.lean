import ApiContract.Proofs.Related
import ApiContract.Proofs.Schema.Draft
import ApiContract.Proofs.Schema.Renaming.Rule.Branch
import ApiContract.Proofs.Schema.Renaming.Rule.List
import ApiContract.Proofs.Schema.Renaming.Rule.Object
import ApiContract.Schema.Rule.Unevaluated

/-!
# What no other keyword has looked at, under renamed schemas

A renamed schema leads to the schemas to which the schema leads, renamed. Without references other than
the recursive one, the same items and the same properties of a value are evaluated, and how many levels
are left does not matter as long as they are enough.
-/

namespace ApiContract.Renaming

open Schema Comparison.Agree

variable {ρ : Renaming} {τ : ρ.Comparison} {S : Value → Prop} {judge judge' : Judge}
  {siblings : Fields} {ctx ctx' : Context} {arg s s' v : Value} {parts parts' : List Value}
  {dialect : Dialect} {d d' : Direction} {root root' : Value} {draft asking : Option Draft}
  {revisit : Prop}

/-! ## Levels -/

/-- Both numbers of levels are the same, or both are enough for a schema with a number of nodes. -/
def SameLevels (nodes depth depth' : Nat) : Prop :=
  depth' = depth ∨ nodes < depth ∧ nodes < depth'

section

variable {n m depth depth' : Nat}

theorem SameLevels.eq_zero (h : SameLevels n 0 depth') : depth' = 0 := by
  obtain h | ⟨h, -⟩ := h
  · exact h
  · cases h

-- One level deeper, schemas have fewer nodes.
theorem SameLevels.exists_succ (h : SameLevels n (depth + 1) depth') :
    ∃ e, depth' = e + 1 ∧ ∀ m < n, SameLevels m depth e := by
  obtain rfl | ⟨h, h'⟩ := h
  · exact ⟨depth, rfl, fun _ _ => .inl rfl⟩
  · obtain ⟨e, rfl⟩ : ∃ e, depth' = e + 1 := ⟨depth' - 1, by omega⟩
    exact ⟨e, rfl, fun m hm => .inr ⟨by omega, by omega⟩⟩

theorem SameLevels.mono (h : SameLevels n depth depth') (hm : m ≤ n) :
    SameLevels m depth depth' := by
  obtain h | ⟨h, h'⟩ := h
  · exact .inl h
  · exact .inr ⟨by omega, by omega⟩

end

/-! ## Drafts -/

-- A renamed schema declares the draft that the schema declares.
theorem declared?_fields (fields : Fields) :
    Draft.declared? (ρ.fields fields) = Draft.declared? fields := by
  rw [Draft.declared?, Draft.declared?, lookup_data (by decide) rfl]

-- Inside both schemas the same draft counts. One that counted is not given up, and one that did not is
-- declared.
theorem inside_fields (fields : Fields) :
    Result.Matches Eq (fun inner inner' : Context => ∃ draft' : Option Draft,
        (draft' = none → draft = none) ∧
        (draft' ≠ none → draft ≠ none ∨ Value.lookup fields "$schema" ≠ none) ∧
        inner = ⟨dialect, d, root, draft'⟩ ∧ inner' = ⟨dialect, d', root', draft'⟩)
      (Context.inside ⟨dialect, d, root, draft⟩ fields)
      (Context.inside ⟨dialect, d', root', draft⟩ (ρ.fields fields)) := by
  rw [Context.inside, Context.inside, declared?_fields]
  cases hdeclared : Draft.declared? fields with
  | error f => exact .error rfl
  | ok declared =>
    cases declared with
    | none => exact .ok ⟨draft, id, .inl, rfl, rfl⟩
    | some draft' =>
      have hfound : Value.lookup fields "$schema" ≠ none := by
        intro hnone
        rw [Draft.declared?, hnone] at hdeclared
        cases hdeclared
      have hsome : some draft' ≠ none := Option.some_ne_none draft'
      exact .ok ⟨some draft', fun hnone => absurd hnone hsome, fun _ => .inr hfound, rfl, rfl⟩

theorem insideSchema_alike (hs : ρ.Alike S s s') :
    Result.Matches Eq (fun inner inner' : Context => ∃ draft' : Option Draft,
        (draft' = none → draft = none) ∧
        inner = ⟨dialect, d, root, draft'⟩ ∧ inner' = ⟨dialect, d', root', draft'⟩)
      (Context.insideSchema ⟨dialect, d, root, draft⟩ s)
      (Context.insideSchema ⟨dialect, d', root', draft⟩ s') := by
  cases hs with
  | scalar s => exact .ok ⟨draft, id, rfl, rfl⟩
  | list => exact .ok ⟨draft, id, rfl, rfl⟩
  | object =>
    exact (inside_fields _).imp fun _ _ ⟨draft', hkept, _, hinner⟩ => ⟨draft', hkept, hinner⟩

/-! ## The schemas to which a schema leads -/

/-- The same failure, or lists of schemas of which the second are the first ones renamed. -/
abbrev AlikeLists (ρ : Renaming) (S : Value → Prop) : Except Fault (List Value) →
    Except Fault (List Value) → Prop :=
  Result.Matches Eq (List.Forall₂ (ρ.Alike S))

theorem forall₂_alike (hparts : ∀ s ∈ parts, ρ.Alike S s (ρ.schema s)) :
    List.Forall₂ (ρ.Alike S) parts (parts.map ρ.schema) := by
  rw [List.forall₂_map_right_iff, List.forall₂_same]
  exact hparts

theorem of_mem_referenceNames {name : String} (h : name ∈ Rule.referenceNames asking) :
    name = "$ref" ∨ name = "$dynamicRef" ∨
      name = "$recursiveRef" ∧ asking = some .draft201909 := by
  unfold Rule.referenceNames at h
  split at h
  · rename_i hasking
    simp only [List.mem_cons, List.not_mem_nil, or_false] at h
    exact h.imp_right fun h => .inr ⟨h, hasking⟩
  · simp only [List.mem_cons, List.not_mem_nil, or_false] at h
    exact h.imp_right .inl

-- A schema refers to nothing, or by the recursive reference to the whole.
theorem referred?_fields (ρ : Renaming) (hsiblings : LeadsInto S revisit (.object siblings))
    {name : String} (hname : name ∈ Rule.referenceNames asking) :
    (Rule.referred? ctx siblings name = .ok none ∧
      Rule.referred? ctx' (ρ.fields siblings) name = .ok none) ∨
    (asking = some .draft201909 ∧ revisit) ∧
      Rule.referred? ctx siblings name = .ok (some ctx.root) ∧
      Rule.referred? ctx' (ρ.fields siblings) name = .ok (some ctx'.root) := by
  have hname := of_mem_referenceNames hname
  have hdata : (∀ flag : Visibility, name ≠ flag.keyword) ∧ Place.ofName name = .data := by
    obtain rfl | rfl | ⟨rfl, -⟩ := hname <;> decide
  rw [Rule.referred?, Rule.referred?, lookup_data hdata.1 hdata.2]
  cases hlookup : Value.lookup siblings name with
  | none => exact .inl ⟨rfl, rfl⟩
  | some arg =>
    obtain ⟨⟨href, hdynamic⟩, hrecursive⟩ := hsiblings.2 _ (Value.mem_of_lookup hlookup)
    obtain rfl | rfl | ⟨rfl, hasking⟩ := hname
    · exact absurd rfl href
    · exact absurd rfl hdynamic
    · exact .inr ⟨⟨hasking, hrecursive rfl⟩, rfl, rfl⟩

-- The parts under one name come before those under the names behind it.
theorem branchesOf_cons (name : String) (names : List String) :
    Rule.branchesOf siblings (name :: names) =
      (match Value.lookup siblings name with
        | some v => partsOf v
        | none => .ok []) >>= fun parts =>
          Rule.branchesOf siblings names >>= fun rest => pure (parts ++ rest) := by
  cases hlookup : Value.lookup siblings name <;>
    simp only [Rule.branchesOf, List.mapM_cons, hlookup, bind_assoc, pure_bind, List.flatten_cons]

theorem branchesOf_fields (hsiblings : AllInner S siblings) {names : List String}
    (hnames : ∀ name ∈ names, (∀ flag : Visibility, name ≠ flag.keyword) ∧
      Place.ofName name = .schemaList) :
    ρ.AlikeLists S (Rule.branchesOf siblings names) (Rule.branchesOf (ρ.fields siblings) names) := by
  induction names with
  | nil => exact .ok .nil
  | cons name names ih =>
    obtain ⟨⟨hname, hplace⟩, hrest⟩ := List.forall_mem_cons.1 hnames
    rw [branchesOf_cons, branchesOf_cons, lookup_fields hname, hplace]
    refine Result.Matches.bind (R := List.Forall₂ (ρ.Alike S)) ?_ fun parts parts' hparts =>
      (ih hrest).bind fun rest rest' hrest => .ok (List.rel_append hparts hrest)
    cases hlookup : Value.lookup siblings name with
    | none => exact .ok .nil
    | some arg =>
      have hinner : ∀ t ∈ Place.schemaList.schemas arg, S t := hplace ▸ hsiblings.lookup hlookup
      simp only [Option.map_some, partsOf_under]
      cases hparts : partsOf arg with
      | error e => exact .error rfl
      | ok parts => exact .ok (forall₂_alike (alike_of_partsOf hinner hparts))

theorem chosen_alike (hsiblings : AllInner S siblings) (holds : Bool) :
    List.Forall₂ (ρ.Alike S) (Rule.chosen siblings holds).toList
      (Rule.chosen (ρ.fields siblings) holds).toList := by
  rw [chosen_fields]
  cases hchosen : Rule.chosen siblings holds with
  | none => exact .nil
  | some s => exact .cons (alike_under (inner_of_chosen hsiblings hchosen)) .nil

theorem dependentOf_fields (hsiblings : AllInner S siblings) (fields : Fields) :
    ρ.AlikeLists S (Rule.dependentOf siblings fields)
      (Rule.dependentOf (ρ.fields siblings) fields) := by
  rw [Rule.dependentOf, Rule.dependentOf, lookup_fields (by decide),
    show Place.ofName "dependentSchemas" = .schemaMap from rfl]
  cases hlookup : Value.lookup siblings "dependentSchemas" with
  | none => exact .ok .nil
  | some demands =>
    simp only [Option.map_some, membersOf_under, Result.bind_map, demandsMet_members]
    cases hmembers : membersOf demands with
    | error e => exact .error rfl
    | ok members =>
      have hinner := of_mem_membersOf (hsiblings.lookup hlookup) hmembers
      refine .ok ?_
      rw [List.map_map, List.forall₂_map_left_iff, List.forall₂_map_right_iff, List.forall₂_same]
      exact fun f hf => alike_schema (hinner f (List.mem_filter.1 hf).1)

namespace Comparison.Agree

-- Of schemas that are alike, the same ones hold.
theorem filterM_alike (h : τ.Agree S judge judge') (hparts : List.Forall₂ (ρ.Alike S) parts parts')
    (v : Value) : ρ.AlikeLists S (filterM (fun s => judge.holds s v) parts)
      (filterM (fun s => judge'.holds s v) parts') := by
  induction hparts with
  | nil => exact .ok .nil
  | cons hs _ ih =>
    rw [filterM, filterM, h.holds hs]
    cases judge.holds _ v with
    | error e => exact .error rfl
    | ok keep =>
      refine ih.bind fun kept kept' hkept => .ok ?_
      cases keep with
      | true => exact .cons hs hkept
      | false => exact hkept

theorem validBranches (h : τ.Agree S judge judge')
    (hsiblings : AllInner S siblings) (v : Value) :
    ρ.AlikeLists S (Rule.validBranches judge siblings v)
      (Rule.validBranches judge' (ρ.fields siblings) v) :=
  (branchesOf_fields hsiblings (by decide)).bind fun _ _ hparts => h.filterM_alike hparts v

theorem conditionalSchemas (h : τ.Agree S judge judge')
    (hsiblings : AllInner S siblings) (v : Value) :
    ρ.AlikeLists S (Rule.conditionalSchemas judge siblings v)
      (Rule.conditionalSchemas judge' (ρ.fields siblings) v) := by
  rw [Rule.conditionalSchemas, Rule.conditionalSchemas, lookup_fields (by decide)]
  cases hlookup : Value.lookup siblings "if" with
  | none => exact .ok .nil
  | some condition =>
    have hs : ρ.Alike S condition (ρ.under .schema condition) :=
      alike_under (hsiblings.lookup hlookup)
    simp only [Option.map_some, show Place.ofName "if" = .schema from rfl, h.holds hs]
    cases judge.holds condition v with
    | error e => exact .error rfl
    | ok holds =>
      cases holds with
      | true => exact .ok (.cons hs (chosen_alike hsiblings true))
      | false => exact .ok (chosen_alike hsiblings false)

end Comparison.Agree

/-! ## Searching the schemas to which a schema leads -/

-- A search that finds the same in related places finds the same in related lists of them.
theorem foundIn_eq {α β γ : Type} {R : α → β → Prop} {find : α → Except Fault (List γ)}
    {find' : β → Except Fault (List γ)} {xs : List α} {ys : List β} (hxs : List.Forall₂ R xs ys)
    (hfind : ∀ x y, R x y → find' y = find x) : Rule.foundIn find' ys = Rule.foundIn find xs := by
  have hmap : ys.mapM find' = xs.mapM find := by
    induction hxs with
    | nil => rfl
    | cons hxy _ ih => rw [List.mapM_cons, List.mapM_cons, hfind _ _ hxy, ih]
  rw [Rule.foundIn, Rule.foundIn, hmap]

section

variable {γ : Type}

-- What a schema refers to is the whole.
theorem foundByReference_eq (ρ : Renaming) (find find' : Context → Value → Except Fault (List γ))
    (hsiblings : LeadsInto S revisit (.object siblings))
    (hwhole : asking = some .draft201909 → revisit →
      (ctx'.insideSchema ctx'.root >>= fun inner => find' inner ctx'.root) =
        ctx.insideSchema ctx.root >>= fun inner => find inner ctx.root) :
    Rule.foundIn (Rule.foundByReference find' ctx' (ρ.fields siblings)) (Rule.referenceNames asking) =
      Rule.foundIn (Rule.foundByReference find ctx siblings) (Rule.referenceNames asking) := by
  refine foundIn_eq (R := fun name name' => name = name' ∧ name ∈ Rule.referenceNames asking)
    (List.forall₂_same.2 fun name hname => ⟨rfl, hname⟩) ?_
  rintro name _ ⟨rfl, hname⟩
  rw [Rule.foundByReference, Rule.foundByReference]
  obtain ⟨hnone, hnone'⟩ | ⟨⟨hasking, hrevisit⟩, hroot, hroot'⟩ :=
    referred?_fields ρ hsiblings hname
  · rw [hnone, hnone']
    rfl
  · rw [hroot, hroot']
    exact hwhole hasking hrevisit

/-- Where schemas lead back to the whole, the whole is renamed, and judges agree about the schemas of a
set whatever draft counts. -/
structure Revisits (τ : ρ.Comparison) (S : Value → Prop) (dialect : Dialect) (d d' : Direction)
    (root root' : Value) (judges judges' : Context → Judge) : Prop where
  whole : root' = ρ.schema root
  mem : S root
  agree : ∀ draft : Draft, τ.Agree S (judges ⟨dialect, d, root, some draft⟩)
    (judges' ⟨dialect, d', root', some draft⟩)

variable {judges judges' : Context → Judge} {find find' : Nat → Context → Value → Except Fault (List γ)}

/-- Two searches come to the same level by level: when no level is left, in what is no object, and in a
schema and the renamed one, if they do in all to which these lead. -/
structure SearchedAlike (S : Value → Prop) (revisit : Prop) (asking : Option Draft)
    (judges judges' : Context → Judge)
    (find find' : Nat → Context → Value → Except Fault (List γ)) : Prop where
  stopped : ∀ ctx ctx' s s', find' 0 ctx' s' = find 0 ctx s
  plain : ∀ {ρ : Renaming} {depth depth' ctx ctx' s s'}, ρ.Alike (fun _ => False) s s' →
    find' (depth' + 1) ctx' s' = find (depth + 1) ctx s
  schema : ∀ {ρ : Renaming} {τ : ρ.Comparison} {T ctx ctx' siblings depth depth'},
    τ.Agree T (judges ctx) (judges' ctx') → LeadsInto S revisit (.object siblings) →
    AllInner T siblings →
    (∀ s s', ρ.Alike T s s' → find' depth' ctx' s' = find depth ctx s) →
    (asking = some .draft201909 → revisit →
      (ctx'.insideSchema ctx'.root >>= fun inner => find' depth' inner ctx'.root) =
        ctx.insideSchema ctx.root >>= fun inner => find depth inner ctx.root) →
    find' (depth' + 1) ctx' (.object (ρ.fields siblings)) = find (depth + 1) ctx (.object siblings)

-- The induction is on the levels. One level down stand inner schemas, which have fewer nodes, or the
-- whole, for which as many levels have to be left on both sides.
theorem SearchedAlike.eq {ρ₀ : Renaming} {τ₀ : ρ₀.Comparison}
    (h : SearchedAlike S revisit asking judges judges' find find')
    (hS : ∀ s, S s → LeadsInto S revisit s)
    (hrevisit : asking ≠ none → revisit → Revisits τ₀ S dialect d d' root root' judges judges')
    (hasking : asking ≠ none → draft ≠ none)
    (hagree : τ.Agree S (judges ⟨dialect, d, root, draft⟩) (judges' ⟨dialect, d', root', draft⟩))
    {n depth depth' : Nat} (hlevels : asking ≠ none → revisit → depth' = depth)
    (hdepth : SameLevels n depth depth')
    (hs : ρ.Alike (fun s => LeadsInto S revisit s ∧ s.nodes ≤ n) s s') :
    find' depth' ⟨dialect, d', root', draft⟩ s' = find depth ⟨dialect, d, root, draft⟩ s := by
  induction depth generalizing ρ τ draft n depth' s s' with
  | zero =>
    rw [hdepth.eq_zero]
    exact h.stopped _ _ _ _
  | succ depth ih =>
    obtain ⟨depth', rfl, hdeeper⟩ := hdepth.exists_succ
    have hlevels : asking ≠ none → revisit → depth' = depth :=
      fun hdraft hr => Nat.succ.inj (hlevels hdraft hr)
    cases hs with
    | scalar s => exact h.plain (.scalar s : identity.Alike _ _ _)
    | list hitems => exact h.plain (.list hitems : identity.Alike _ _ _)
    | @object siblings hsiblings =>
      obtain ⟨hsiblings, hnodes⟩ := hsiblings
      have hinner : AllInner _ siblings := hsiblings.1.and (allInner_nodes siblings)
      refine h.schema (hagree.mono fun s hs => hs.1) hsiblings hinner (fun s s' hs => ?_)
        fun hdraft hr => ?_
      · have hpos : 0 < n := Nat.lt_of_lt_of_le (Value.nodes_pos _) hnodes
        refine ih hasking hagree hlevels (hdeeper (n - 1) (by omega)) (hs.mono fun s hs => ?_)
        exact ⟨hS s hs.1, by omega⟩
      · have hdraft : asking ≠ none := hdraft ▸ nofun
        have hwhole := hrevisit hdraft hr
        have halike : ρ₀.Alike (fun s => LeadsInto S revisit s ∧ s.nodes ≤ root.nodes) root root' :=
          hwhole.whole ▸ alike_schema ⟨hS _ hwhole.mem, Nat.le_refl _⟩
        refine (insideSchema_alike halike).bind_eq ?_
        rintro _ _ ⟨draft', hkept, rfl, rfl⟩
        cases draft' with
        | none => exact absurd (hkept rfl) (hasking hdraft)
        | some draft' =>
          have hsome : some draft' ≠ none := nofun
          exact ih (fun _ => hsome) (hwhole.agree draft') hlevels (.inl (hlevels hdraft hr)) halike

end

namespace Comparison.Agree

/-! ## Items -/

theorem indicesUnder (h : τ.Agree S judge judge')
    (hsiblings : AllInner S siblings) (items : List Value) (name : String)
    (hname : (∀ flag : Visibility, name ≠ flag.keyword) ∧ Place.ofName name = .schema) :
    Rule.indicesUnder judge' (ρ.fields siblings) items name =
      Rule.indicesUnder judge siblings items name := by
  rw [Rule.indicesUnder, Rule.indicesUnder, lookup_fields hname.1, hname.2]
  cases hlookup : Value.lookup siblings name with
  | none => rfl
  | some s =>
    have hinner : ∀ t ∈ Place.schema.schemas s, S t := hname.2 ▸ hsiblings.lookup hlookup
    simp only [Option.map_some, h.holds (alike_under hinner)]

theorem itemsCover_fields :
    Rule.itemsCover asking (ρ.fields siblings) = Rule.itemsCover asking siblings := by
  rw [Rule.itemsCover, Rule.itemsCover, lookup_fields (by decide), hasField_fields (by decide)]
  cases Value.lookup siblings "items" with
  | none => rfl
  | some schema =>
    cases schema with
    | scalar s => rw [Option.map_some, under_scalar]
    | list items => rfl
    | object fields => rfl

theorem positionsName_fields : Rule.positions (ρ.fields siblings) (Rule.positionsName asking) =
    Rule.positions siblings (Rule.positionsName asking) := by
  refine positions_fields ?_
  unfold Rule.positionsName
  split <;> decide

variable {judges judges' : Context → Judge} {T : Value → Prop} {depth depth' : Nat}

-- One level of the search, where those below come to the same.
theorem evaluatedIndices_succ (h : τ.Agree T (judges ctx) (judges' ctx'))
    (hsiblings : LeadsInto S revisit (.object siblings)) (hinner : AllInner T siblings)
    (items : List Value)
    (hwithin : ∀ s s', ρ.Alike T s s' →
      Rule.evaluatedIndices asking judges' depth' ctx' s' items =
        Rule.evaluatedIndices asking judges depth ctx s items)
    (hwhole : asking = some .draft201909 → revisit →
      (ctx'.insideSchema ctx'.root >>= fun inner =>
          Rule.evaluatedIndices asking judges' depth' inner ctx'.root items) =
        ctx.insideSchema ctx.root >>= fun inner =>
          Rule.evaluatedIndices asking judges depth inner ctx.root items) :
    Rule.evaluatedIndices asking judges' (depth' + 1) ctx' (.object (ρ.fields siblings)) items =
      Rule.evaluatedIndices asking judges (depth + 1) ctx (.object siblings) items := by
  have hreferred := foundByReference_eq ρ
    (fun ctx s => Rule.evaluatedIndices asking judges depth ctx s items)
    (fun ctx s => Rule.evaluatedIndices asking judges' depth' ctx s items) hsiblings hwhole
  unfold Rule.evaluatedIndices
  simp only [itemsCover_fields, positionsName_fields, hreferred,
    h.indicesUnder hinner items "contains" (by decide),
    h.indicesUnder hinner items "unevaluatedItems" (by decide)]
  refine ite_congr rfl (fun _ => rfl) fun _ => Result.bind_congr fun referred _ =>
    Result.bind_congr fun first _ => ?_
  refine (h.conditionalSchemas hinner _).bind_eq fun parts parts' hconditional => ?_
  rw [foundIn_eq hconditional hwithin]
  refine Result.bind_congr fun conditional _ => Result.bind_congr fun contained _ =>
    Result.bind_congr fun unevaluated _ => ?_
  refine (h.validBranches hinner _).bind_eq fun parts parts' hbranches => ?_
  rw [foundIn_eq hbranches hwithin]

/-- The same items are evaluated, in the same order. -/
theorem evaluatedIndices_alike (items : List Value) : SearchedAlike S revisit asking judges judges'
    (fun depth ctx s => Rule.evaluatedIndices asking judges depth ctx s items)
    (fun depth ctx s => Rule.evaluatedIndices asking judges' depth ctx s items) := by
  constructor
  case stopped => exact fun _ _ _ _ => rfl
  case plain =>
    rintro ρ depth depth' ctx ctx' s s' hs
    cases hs with
    | scalar s => cases s <;> rfl
    | list => rfl
    | object hfalse => exact hfalse.elim
  case schema => exact fun h hsiblings hinner => h.evaluatedIndices_succ hsiblings hinner items

theorem unevaluatedItems {ρ₀ : Renaming} {τ₀ : ρ₀.Comparison}
    (h : τ.Agree S (judges ⟨dialect, d, root, draft⟩) (judges' ⟨dialect, d', root', draft⟩))
    (hS : ∀ s, S s → LeadsInto S revisit s)
    (hrevisit : draft ≠ none → revisit → Revisits τ₀ S dialect d d' root root' judges judges')
    (hsiblings : LeadsInto S revisit (.object siblings))
    (hlevels : draft ≠ none → revisit → depth' = depth)
    (hdepth : SameLevels (Value.object siblings).nodes depth depth') (v : Value) :
    τ.after.outcome (Rule.unevaluatedItems ⟨dialect, d', root', draft⟩ judges' depth'
        (ρ.fields siblings) v) =
      τ.before.outcome (Rule.unevaluatedItems ⟨dialect, d, root, draft⟩ judges depth siblings v) := by
  unfold Rule.unevaluatedItems
  split
  · rename_i items
    have hevaluated := (evaluatedIndices_alike items).eq hS hrevisit id h hlevels hdepth
      (.object ⟨hsiblings, Nat.le_refl _⟩)
    simp only [hevaluated]
    exact ofResult_congr fun evaluated _ => require_congr rfl
  · rfl

/-! ## Properties -/

-- The declared properties have the same names.
theorem declaredNames_fields (fields : Fields) :
    Rule.declaredNames (ρ.fields siblings) fields = Rule.declaredNames siblings fields := by
  rw [Rule.declaredNames, Rule.declaredNames, lookup_fields (by decide),
    show Place.ofName "properties" = .schemaMap from rfl]
  cases Value.lookup siblings "properties" with
  | none => rfl
  | some declared =>
    cases declared with
    | scalar s => rw [Option.map_some, under_scalar]
    | list items => rfl
    | object members =>
      refine congrArg (fun q => List.filter q _) (funext fun name => ?_)
      exact hasField_members members name

-- A scalar, null among them, is the same value as before.
theorem namesUnder (h : τ.Agree S judge judge')
    (hsiblings : AllInner S siblings) (fields : Fields) (name : String)
    (hname : (∀ flag : Visibility, name ≠ flag.keyword) ∧ Place.ofName name = .schema) :
    Rule.namesUnder judge' (ρ.fields siblings) fields name =
      Rule.namesUnder judge siblings fields name := by
  rw [Rule.namesUnder, Rule.namesUnder, lookup_fields hname.1, hname.2]
  cases hlookup : Value.lookup siblings name with
  | none => rfl
  | some s =>
    have hinner : ∀ t ∈ Place.schema.schemas s, S t := hname.2 ▸ hsiblings.lookup hlookup
    have hs : ρ.Alike S s (ρ.under .schema s) := alike_under hinner
    simp only [Option.map_some]
    generalize ρ.under .schema s = s' at hs
    have hholds := fun v => h.holds hs v
    cases hs with
    | scalar s =>
      cases s with
      | null => rfl
      | _ => simp only [hholds]
    | list => simp only [hholds]
    | object => simp only [hholds]

theorem patternNames_fields (fields : Fields) :
    Rule.patternNames (ρ.fields siblings) fields = Rule.patternNames siblings fields := by
  rw [Rule.patternNames, Rule.patternNames, lookup_patterns]
  cases Value.lookup siblings "patternProperties" with
  | none => rfl
  | some patterns => simp only [Option.map_some, partsOf_patterns]

-- One level of the search, where those below come to the same.
theorem evaluatedNames_succ (h : τ.Agree T (judges ctx) (judges' ctx'))
    (hsiblings : LeadsInto S revisit (.object siblings)) (hinner : AllInner T siblings)
    (fields : Fields)
    (hwithin : ∀ s s', ρ.Alike T s s' →
      Rule.evaluatedNames asking judges' depth' ctx' s' fields =
        Rule.evaluatedNames asking judges depth ctx s fields)
    (hwhole : asking = some .draft201909 → revisit →
      (ctx'.insideSchema ctx'.root >>= fun inner =>
          Rule.evaluatedNames asking judges' depth' inner ctx'.root fields) =
        ctx.insideSchema ctx.root >>= fun inner =>
          Rule.evaluatedNames asking judges depth inner ctx.root fields) :
    Rule.evaluatedNames asking judges' (depth' + 1) ctx' (.object (ρ.fields siblings)) fields =
      Rule.evaluatedNames asking judges (depth + 1) ctx (.object siblings) fields := by
  have hreferred := foundByReference_eq ρ
    (fun ctx s => Rule.evaluatedNames asking judges depth ctx s fields)
    (fun ctx s => Rule.evaluatedNames asking judges' depth' ctx s fields) hsiblings hwhole
  unfold Rule.evaluatedNames
  simp only [declaredNames_fields, patternNames_fields, hreferred,
    h.namesUnder hinner fields "additionalProperties" (by decide),
    h.namesUnder hinner fields "unevaluatedProperties" (by decide)]
  refine Result.bind_congr fun referred _ => Result.bind_congr fun additional _ =>
    Result.bind_congr fun unevaluated _ => Result.bind_congr fun matched _ => ?_
  refine (dependentOf_fields hinner fields).bind_eq fun parts parts' hdependent => ?_
  rw [foundIn_eq hdependent hwithin]
  refine Result.bind_congr fun dependent _ => ?_
  refine (h.validBranches hinner _).bind_eq fun parts parts' hbranches => ?_
  rw [foundIn_eq hbranches hwithin]
  refine Result.bind_congr fun branches _ => ?_
  refine (h.conditionalSchemas hinner _).bind_eq fun parts parts' hconditional => ?_
  rw [foundIn_eq hconditional hwithin]

/-- The same properties are evaluated, in the same order. -/
theorem evaluatedNames_alike (fields : Fields) : SearchedAlike S revisit asking judges judges'
    (fun depth ctx s => Rule.evaluatedNames asking judges depth ctx s fields)
    (fun depth ctx s => Rule.evaluatedNames asking judges' depth ctx s fields) := by
  constructor
  case stopped => exact fun _ _ _ _ => rfl
  case plain =>
    rintro ρ depth depth' ctx ctx' s s' hs
    cases hs with
    | scalar s => cases s <;> rfl
    | list => rfl
    | object hfalse => exact hfalse.elim
  case schema => exact fun h hsiblings hinner => h.evaluatedNames_succ hsiblings hinner fields

-- As many violations are found in each property.
theorem offenders (h : τ.Agree S judge judge') (hs : ρ.Alike S s s')
    (properties : List (String × Value)) :
    Rule.offenders judge' s' properties = Rule.offenders judge s properties := by
  induction properties with
  | nil => rfl
  | cons q rest ih =>
    simp only [Rule.offenders, ih]
    refine (h.all_matches hs q.2).bind_eq fun violations violations' hlength => ?_
    rw [List.map_const', List.map_const', hlength]

theorem unevaluatedProperties {ρ₀ : Renaming} {τ₀ : ρ₀.Comparison}
    (h : τ.Agree S (judges ⟨dialect, d, root, draft⟩) (judges' ⟨dialect, d', root', draft⟩))
    (hS : ∀ s, S s → LeadsInto S revisit s)
    (hrevisit : draft ≠ none → revisit → Revisits τ₀ S dialect d d' root root' judges judges')
    (hsiblings : LeadsInto S revisit (.object siblings)) (hs : ρ.Alike S s s')
    (hlevels : draft ≠ none → revisit → depth' = depth)
    (hdepth : SameLevels (Value.object siblings).nodes depth depth') (v : Value) :
    τ.after.outcome (Rule.unevaluatedProperties ⟨dialect, d', root', draft⟩ judges' depth'
        (ρ.fields siblings) s' v) =
      τ.before.outcome
        (Rule.unevaluatedProperties ⟨dialect, d, root, draft⟩ judges depth siblings s v) := by
  have hfalse : s' = .bool false ↔ s = .bool false := by
    cases hs with
    | scalar s => exact Iff.rfl
    | list => exact ⟨nofun, nofun⟩
    | object => exact ⟨nofun, nofun⟩
  unfold Rule.unevaluatedProperties
  split
  · rename_i fields
    have hevaluated := (evaluatedNames_alike fields).eq hS hrevisit id h hlevels hdepth
      (.object ⟨hsiblings, Nat.le_refl _⟩)
    simp only [hevaluated, h.offenders hs, hfalse]
    refine ofResult_congr fun evaluated _ => ofResult_congr fun names _ => require_congr ?_
    split <;> rfl
  · rfl

end Comparison.Agree

end ApiContract.Renaming
