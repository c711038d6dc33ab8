import ApiContract.Parameter.Merge
import ApiContract.Proofs.Related
import Mathlib.Data.List.Nodup
import Mathlib.Data.List.Perm.Basic

/-!
# The parameters in force

Of all declarations of one location and name exactly one is in force: the last one of the operation,
or, if the operation declares none, the last one of the path. Merging keeps the parameters in force
and nothing else, in the order of their locations and names.
-/

namespace ApiContract.Parameter

variable {xs : List (Key × Value)} {key : Key} {p : Value}

/-! ## The order of keys -/

-- Keys are ordered by location, keys of one location by name.
theorem Key.le_iff {a b : Key} :
    a.le b = true ↔ a.location < b.location ∨ a.location = b.location ∧ a.name ≤ b.name := by
  simp [le]

theorem Key.le_trans (a b c : Key) (hab : a.le b = true) (hbc : b.le c = true) :
    a.le c = true := by
  rw [le_iff] at hab hbc ⊢
  rcases hab with hab | ⟨hlocation, hab⟩
  · rcases hbc with hbc | ⟨hlocation', -⟩
    · exact Or.inl (String.lt_trans hab hbc)
    · exact Or.inl (hlocation' ▸ hab)
  · rcases hbc with hbc | ⟨hlocation', hbc⟩
    · exact Or.inl (hlocation ▸ hbc)
    · exact Or.inr ⟨hlocation.trans hlocation', String.le_trans hab hbc⟩

theorem Key.le_total (a b : Key) : (a.le b || b.le a) = true := by
  rw [Bool.or_eq_true, le_iff, le_iff]
  by_cases hab : a.location < b.location
  · exact Or.inl (Or.inl hab)
  · by_cases hba : b.location < a.location
    · exact Or.inr (Or.inl hba)
    · have hlocation : a.location = b.location :=
        String.le_antisymm (String.not_lt.1 hba) (String.not_lt.1 hab)
      rcases String.le_total a.name b.name with h | h
      · exact Or.inl (Or.inr ⟨hlocation, h⟩)
      · exact Or.inr (Or.inr ⟨hlocation.symm, h⟩)

theorem Key.le_antisymm {a b : Key} (hab : a.le b = true) (hba : b.le a = true) : a = b := by
  rw [le_iff] at hab hba
  rcases hab with hab | ⟨hlocation, hab⟩
  · rcases hba with hba | ⟨hlocation, -⟩
    · exact absurd (String.lt_trans hab hba) (String.lt_irrefl _)
    · exact absurd (hlocation ▸ hab) (String.lt_irrefl _)
  · rcases hba with hba | ⟨-, hba⟩
    · exact absurd (hlocation ▸ hba) (String.lt_irrefl _)
    · rcases a with ⟨location, name⟩
      rcases b with ⟨location', name'⟩
      obtain rfl : location = location' := hlocation
      obtain rfl : name = name' := String.le_antisymm hab hba
      rfl

/-! ## The last of each key -/

/-- The last parameter that is declared under a key. -/
def lastOf? (declarations : List (Key × Value)) (key : Key) : Option Value :=
  declarations.reverse.lookup key

theorem lastOf?_cons {k : Key} {v : Value} : lastOf? ((k, v) :: xs) key =
    (lastOf? xs key).or (if key = k then some v else none) := by
  rw [lastOf?, List.reverse_cons, List.lookup_append, lastOf?]
  by_cases h : key = k
  · rw [if_pos h, h, List.lookup_cons_self]
  · have hne : (key == k) = false := by simpa using h
    rw [if_neg h, List.lookup_cons, hne]
    rfl

-- A key that is declared has a last declaration.
theorem any_iff_isSome_lastOf? : xs.any (·.1 == key) = (lastOf? xs key).isSome := by
  induction xs with
  | nil => rfl
  | cons x xs ih =>
    rcases x with ⟨k, v⟩
    rw [List.any_cons, ih, lastOf?_cons]
    by_cases h : key = k
    · subst h
      cases lastOf? xs key <;> simp
    · have hne : (k == key) = false := by simpa using Ne.symm h
      rw [if_neg h, hne, Bool.false_or, Option.or_none]

-- What is kept is the last declaration of its key.
theorem mem_lastOfEach : (key, p) ∈ lastOfEach xs ↔ lastOf? xs key = some p := by
  induction xs with
  | nil => simp [lastOfEach, lastOf?]
  | cons x xs ih =>
    rcases x with ⟨k, v⟩
    rw [lastOfEach, lastOf?_cons, any_iff_isSome_lastOf?]
    cases hlast : lastOf? xs k with
    | some w =>
      rw [Option.isSome_some, if_pos rfl, ih]
      by_cases h : key = k
      · subst h
        rw [hlast, Option.some_or]
      · rw [if_neg h, Option.or_none]
    | none =>
      rw [Option.isSome_none, if_neg (by decide), List.mem_cons, ih, Prod.mk.injEq]
      by_cases h : key = k
      · subst h
        simp [hlast, eq_comm]
      · simp [h]

-- No key is kept twice.
theorem nodup_lastOfEach (xs : List (Key × Value)) : ((lastOfEach xs).map (·.1)).Nodup := by
  induction xs with
  | nil => exact List.nodup_nil
  | cons x xs ih =>
    rcases x with ⟨k, v⟩
    rw [lastOfEach, any_iff_isSome_lastOf?]
    cases hlast : lastOf? xs k with
    | some w => exact ih
    | none =>
      refine List.nodup_cons.2 ⟨?_, ih⟩
      intro hmem
      rcases List.mem_map.1 hmem with ⟨⟨k', w⟩, hkept, hk⟩
      rw [mem_lastOfEach, show k' = k from hk, hlast] at hkept
      cases hkept

/-! ## What is in force -/

variable {ofPath ofOperation : Value}

/-- The parameter in force under a key: the last one that the operation declares, or else the last
one that the path declares. -/
def inForce? (ofPath ofOperation : Value) (key : Key) : Option Value :=
  (lastOf? (keyed ofOperation) key).or (lastOf? (keyed ofPath) key)

/-- The merged parameters with their keys. -/
def mergedEntries (ofPath ofOperation : Value) : List (Key × Value) :=
  (lastOfEach (keyed ofPath ++ keyed ofOperation)).mergeSort fun a b => a.1.le b.1

theorem merge_eq : merge ofPath ofOperation = (mergedEntries ofPath ofOperation).map (·.2) := rfl

/-- Merging keeps what is in force. -/
theorem mem_mergedEntries :
    (key, p) ∈ mergedEntries ofPath ofOperation ↔ inForce? ofPath ofOperation key = some p := by
  rw [mergedEntries, List.mem_mergeSort, mem_lastOfEach, lastOf?, List.reverse_append,
    List.lookup_append]
  rfl

-- The merged parameters stand in the order of their keys, each key once.
theorem pairwise_mergedEntries :
    (mergedEntries ofPath ofOperation).Pairwise fun a b => a.1.le b.1 = true ∧ a.1 ≠ b.1 := by
  have hsorted : (mergedEntries ofPath ofOperation).Pairwise fun a b => a.1.le b.1 = true :=
    @List.pairwise_mergeSort (Key × Value) (fun a b => a.1.le b.1)
      (fun a b c => Key.le_trans a.1 b.1 c.1) (fun a b => Key.le_total a.1 b.1) _
  have hperm : (mergedEntries ofPath ofOperation).Perm
      (lastOfEach (keyed ofPath ++ keyed ofOperation)) := List.mergeSort_perm _ _
  have hkeys : ((mergedEntries ofPath ofOperation).map (·.1)).Nodup :=
    (hperm.map (·.1)).nodup_iff.2 (nodup_lastOfEach _)
  rw [List.Nodup, List.pairwise_map] at hkeys
  exact hsorted.and hkeys

/-- Merging depends on nothing but what is in force. -/
theorem merge_congr {ofPath' ofOperation' : Value}
    (h : ∀ key, inForce? ofPath ofOperation key = inForce? ofPath' ofOperation' key) :
    merge ofPath ofOperation = merge ofPath' ofOperation' := by
  have hentries : mergedEntries ofPath ofOperation = mergedEntries ofPath' ofOperation' := by
    have hmem : ∀ e, e ∈ mergedEntries ofPath ofOperation ↔
        e ∈ mergedEntries ofPath' ofOperation' := by
      rintro ⟨key, p⟩
      rw [mem_mergedEntries, mem_mergedEntries, h key]
    have hsorted : ∀ {a b : Value}, (mergedEntries a b).Nodup := by
      intro a b
      exact pairwise_mergedEntries.imp fun hab heq => hab.2 (congrArg Prod.fst heq)
    refine @List.Perm.eq_of_pairwise (Key × Value) (fun a b => a.1.le b.1 = true) _ _ ?_
      (pairwise_mergedEntries.imp And.left) (pairwise_mergedEntries.imp And.left)
      ((List.perm_ext_iff_of_nodup hsorted hsorted).2 hmem)
    rintro ⟨key, p⟩ ⟨key', p'⟩ hp hp' hle hle'
    obtain rfl := Key.le_antisymm hle hle'
    rw [hmem, mem_mergedEntries] at hp
    rw [mem_mergedEntries] at hp'
    rw [Option.some.inj (hp.symm.trans hp')]
  rw [merge_eq, merge_eq, hentries]

-- A declared parameter has the key under which it is declared.
theorem keyOf?_of_mem_keyed {declared : Value} (h : (key, p) ∈ keyed declared) :
    keyOf? p = some key := by
  unfold keyed at h
  split at h
  · rcases List.mem_filterMap.1 h with ⟨q, -, hq⟩
    rcases Option.map_eq_some_iff.1 hq with ⟨k, hk, heq⟩
    obtain ⟨rfl, rfl⟩ := Prod.mk.inj heq
    exact hk
  · cases h

-- A parameter in force has the key under which it is.
theorem keyOf?_of_inForce? (h : inForce? ofPath ofOperation key = some p) :
    keyOf? p = some key := by
  have hlast : ∀ {declared : Value}, lastOf? (keyed declared) key = some p →
      keyOf? p = some key := by
    intro declared hlast
    rcases List.lookup_eq_some_iff.1 hlast with ⟨before, after, heq, -⟩
    refine @keyOf?_of_mem_keyed _ _ declared (List.mem_reverse.1 ?_)
    rw [heq]
    exact List.mem_append_right _ List.mem_cons_self
  rcases Option.or_eq_some_iff.1 h with h | ⟨-, h⟩
  · exact hlast h
  · exact hlast h

/-! ## One of each -/

/-- What a list declares under a key, in order. Nothing else declares anything. -/
def declaredUnder (key : Key) : Value → List Value
  | .list items => items.filter fun p => keyOf? p == some key
  | _ => []

/-- The order of keys without equality: by location, and at one location by name. -/
def Key.Precedes (a b : Key) : Prop :=
  a.location < b.location ∨ a.location = b.location ∧ a.name < b.name

theorem Key.precedes_of_le_of_ne {a b : Key} (hle : a.le b = true) (hne : a ≠ b) :
    a.Precedes b := by
  rcases Key.le_iff.1 hle with hlocation | ⟨hlocation, hname⟩
  · exact Or.inl hlocation
  · refine Or.inr ⟨hlocation, ?_⟩
    by_contra hnot
    exact hne (Key.le_antisymm hle (Key.le_iff.2 (Or.inr ⟨hlocation.symm, String.not_lt.1 hnot⟩)))

-- The last declaration of a key is the last of those under the key.
theorem lastOf?_keyed (declared : Value) :
    lastOf? (keyed declared) key = (declaredUnder key declared).getLast? := by
  rw [lastOf?, Related.lookup_reverse]
  congr 1
  cases declared with
  | scalar s => rfl
  | object fields => rfl
  | list items =>
    unfold keyed declaredUnder
    dsimp only
    rw [List.filter_filterMap, List.map_filterMap, ← List.filterMap_eq_filter]
    refine List.filterMap_congr fun p _ => ?_
    cases hdeclared : keyOf? p with
    | none => simp [Option.guard, hdeclared]
    | some k => by_cases hkey : k = key <;> simp [Option.guard, Option.filter, hdeclared, hkey]

-- A merged parameter stands with its own key.
theorem keyOf?_of_mem_mergedEntries {e : Key × Value} (h : e ∈ mergedEntries ofPath ofOperation) :
    keyOf? e.2 = some e.1 :=
  keyOf?_of_inForce? (mem_mergedEntries.1 h)

theorem declaredUnder_merge : declaredUnder key (.list (merge ofPath ofOperation)) =
    (inForce? ofPath ofOperation key).toList := by
  have hfilter : declaredUnder key (.list (merge ofPath ofOperation)) =
      ((mergedEntries ofPath ofOperation).filter fun e => e.1 == key).map (·.2) := by
    rw [declaredUnder, merge_eq, List.filter_map]
    congr 1
    refine List.filter_congr fun e he => ?_
    rw [Function.comp_apply, keyOf?_of_mem_mergedEntries he, Bool.eq_iff_iff]
    simp
  have hmem : ∀ e, e ∈ (mergedEntries ofPath ofOperation).filter (fun e => e.1 == key) ↔
      e.1 = key ∧ inForce? ofPath ofOperation key = some e.2 := by
    rintro ⟨k, p⟩
    rw [List.mem_filter, mem_mergedEntries, beq_iff_eq, and_comm]
    exact and_congr_right fun hk => by rw [show k = key from hk]
  have hkeys := (@pairwise_mergedEntries ofPath ofOperation).filter fun e => e.1 == key
  rw [hfilter]
  generalize (mergedEntries ofPath ofOperation).filter (fun e => e.1 == key) = entries at hmem hkeys
  cases entries with
  | nil =>
    cases hforce : inForce? ofPath ofOperation key with
    | none => rfl
    | some p => exact absurd ((hmem (key, p)).2 ⟨rfl, hforce⟩) List.not_mem_nil
  | cons e others =>
    obtain ⟨hkey, hforce⟩ := (hmem e).1 List.mem_cons_self
    cases others with
    | nil => rw [hforce]; rfl
    | cons other rest =>
      have hsame : other.1 = key := ((hmem other).1 (by simp)).1
      exact absurd (hkey.trans hsame.symm) ((List.pairwise_cons.1 hkeys).1 other (by simp)).2

/-- Merging loses and duplicates nothing. Under each key there is exactly one parameter when anything
is declared under it: the last one of the operation, or, if the operation has none, the last one of
the path. Everything that is merged has a key, the keys increase by location and name, and nothing but
what is declared under each key, in its order there, makes a difference: neither how the parameters
with different keys are mixed nor what is no parameter object. -/
theorem merge_keeps_one_of_each (ofPath ofOperation : Value) :
    (∀ key, declaredUnder key (.list (merge ofPath ofOperation)) =
      ((declaredUnder key ofOperation).getLast?.or (declaredUnder key ofPath).getLast?).toList) ∧
    (∀ p ∈ merge ofPath ofOperation, ∃ key, keyOf? p = some key) ∧
    (merge ofPath ofOperation).Pairwise (fun p q =>
      ∃ a b, keyOf? p = some a ∧ keyOf? q = some b ∧ a.Precedes b) ∧
    ∀ ofPath' ofOperation',
      (∀ key, declaredUnder key ofPath' = declaredUnder key ofPath) →
      (∀ key, declaredUnder key ofOperation' = declaredUnder key ofOperation) →
        merge ofPath' ofOperation' = merge ofPath ofOperation := by
  refine ⟨fun key => ?_, fun p hp => ?_, ?_, fun ofPath' ofOperation' hpath hoperation => ?_⟩
  · rw [declaredUnder_merge, inForce?, lastOf?_keyed, lastOf?_keyed]
  · rw [merge_eq] at hp
    obtain ⟨e, he, rfl⟩ := List.mem_map.1 hp
    exact ⟨e.1, keyOf?_of_mem_mergedEntries he⟩
  · rw [merge_eq, List.pairwise_map]
    refine List.Pairwise.imp_of_mem ?_ pairwise_mergedEntries
    intro e f he hf hlt
    exact ⟨e.1, f.1, keyOf?_of_mem_mergedEntries he, keyOf?_of_mem_mergedEntries hf,
      Key.precedes_of_le_of_ne hlt.1 hlt.2⟩
  · refine merge_congr fun key => ?_
    simp only [inForce?, lastOf?_keyed, hpath key, hoperation key]

/-- A parameter with a note that tells it from others with the same key. -/
def notedParameter (location name note : String) : Value :=
  .object [(.str "name", .str name), (.str "in", .str location), (.str "description", .str note)]

/-- Two parameters with one key, one with another key, and what is none. -/
def notedParameters : List Value :=
  [notedParameter "query" "limit" "old", .object [(.str "name", .str "limit")],
    notedParameter "path" "id" "only", notedParameter "query" "limit" "new", .int 5]

/-- The same with the other key first and without what is none. -/
def mixedParameters : List Value :=
  [notedParameter "path" "id" "only", notedParameter "query" "limit" "old",
    notedParameter "query" "limit" "new"]

-- Either way the later limit of the path is in force, and the operation's id.
theorem merge_of_noted_parameters :
    merge (.list mixedParameters) (.list [notedParameter "path" "id" "own"]) =
      merge (.list notedParameters) (.list [notedParameter "path" "id" "own"]) ∧
    declaredUnder ⟨"query", "limit"⟩
      (.list (merge (.list notedParameters) (.list [notedParameter "path" "id" "own"]))) =
        [notedParameter "query" "limit" "new"] ∧
    declaredUnder ⟨"path", "id"⟩
      (.list (merge (.list notedParameters) (.list [notedParameter "path" "id" "own"]))) =
        [notedParameter "path" "id" "own"] := by
  have hsame : ∀ key, declaredUnder key (.list mixedParameters) =
      declaredUnder key (.list notedParameters) := by
    intro key
    have hlimit : ∀ note, keyOf? (notedParameter "query" "limit" note) = some ⟨"query", "limit"⟩ :=
      fun _ => rfl
    have hid : ∀ note, keyOf? (notedParameter "path" "id" note) = some ⟨"path", "id"⟩ :=
      fun _ => rfl
    have hnone : keyOf? (.object [(.str "name", .str "limit")]) = none ∧ keyOf? (.int 5) = none :=
      ⟨rfl, rfl⟩
    simp only [declaredUnder, mixedParameters, notedParameters, List.filter_cons, List.filter_nil,
      hlimit, hid, hnone.1, hnone.2, Option.some_beq_some, Option.none_beq_some]
    by_cases hkey : key = ⟨"path", "id"⟩
    · subst hkey
      rfl
    · have hother : ((⟨"path", "id"⟩ : Key) == key) = false := by simpa using Ne.symm hkey
      simp only [hother]
      rfl
  obtain ⟨hone, -, -, hcongr⟩ := merge_keeps_one_of_each (.list notedParameters)
    (.list [notedParameter "path" "id" "own"])
  exact ⟨hcongr _ _ hsame fun _ => rfl, hone ⟨"query", "limit"⟩, hone ⟨"path", "id"⟩⟩

/-! ## The greatest element of a sorted list -/

-- Among the elements of a sorted list the last that gives a result is the greatest that does.
theorem findSome?_reverse_eq_some_iff {α β : Type} {r : α → α → Prop} {f : α → Option β}
    {xs : List α} {b : β} (hasymm : ∀ x y, r x y → ¬ r y x) (hsorted : xs.Pairwise r) :
    xs.reverse.findSome? f = some b ↔
      ∃ x ∈ xs, f x = some b ∧ ∀ y ∈ xs, r x y → f y = none := by
  rw [Related.findSome?_reverse_iff]
  constructor
  · rintro ⟨before, x, after, rfl, hx, hafter⟩
    have hbefore := (List.pairwise_append.1 hsorted).2.2
    refine ⟨x, by simp, hx, fun y hy hxy => ?_⟩
    rcases List.mem_append.1 hy with hy | hy
    · exact absurd (hbefore y hy x List.mem_cons_self) (hasymm x y hxy)
    · rcases List.mem_cons.1 hy with rfl | hy
      · exact absurd hxy (hasymm y y hxy)
      · exact hafter y hy
  · rintro ⟨x, hmem, hx, hlater⟩
    obtain ⟨before, after, rfl⟩ := List.append_of_mem hmem
    have hafter := (List.pairwise_cons.1 (List.pairwise_append.1 hsorted).2.1).1
    refine ⟨before, x, after, rfl, hx, fun y hy => hlater y ?_ (hafter y hy)⟩
    exact List.mem_append_right _ (List.mem_cons_of_mem x hy)

end ApiContract.Parameter
