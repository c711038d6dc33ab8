import ApiContract.Value.Basic
import Mathlib.Data.List.Forall2

/-!
# Related lists

Two lists are related when their elements are, one by one. What stands at a position of one list, or
under a key of it, is then related to what stands there in the other one.
-/

namespace ApiContract.Related

variable {α β : Type} {R : α → β → Prop} {xs : List α} {ys : List β}

-- Each element on the right of two related lists is related to one on the left.
theorem exists_of_mem_right (h : List.Forall₂ R xs ys) {y : β} (hy : y ∈ ys) :
    ∃ x ∈ xs, R x y := by
  induction h with
  | nil => cases hy
  | @cons a b xs ys hab _ ih =>
    rcases List.mem_cons.1 hy with rfl | hy
    · exact ⟨a, List.mem_cons_self, hab⟩
    · rcases ih hy with ⟨x, hx, hxy⟩
      exact ⟨x, List.mem_cons_of_mem a hx, hxy⟩

-- Each element on the left of two related lists is related to one on the right.
theorem exists_of_mem_left (h : List.Forall₂ R xs ys) {x : α} (hx : x ∈ xs) :
    ∃ y ∈ ys, R x y :=
  exists_of_mem_right (R := fun y x => R x y) (List.Forall₂.flip h) hx

-- Lists are equal when their related elements are.
theorem eq_of_forall_mem {zs : List α} {S : α → α → Prop} (h : List.Forall₂ S xs zs)
    (hS : ∀ x ∈ xs, ∀ z ∈ zs, S x z → x = z) : xs = zs := by
  induction h with
  | nil => rfl
  | @cons x z xs zs hxz _ ih =>
    rw [hS x List.mem_cons_self z List.mem_cons_self hxz,
      ih fun x hx z hz => hS x (List.mem_cons_of_mem _ hx) z (List.mem_cons_of_mem _ hz)]

-- Related lists have related elements at every position, or none.
theorem rel_getElem? (h : List.Forall₂ R xs ys) (i : Nat) : Option.Rel R xs[i]? ys[i]? := by
  have hlength : xs.length = ys.length := h.length_eq
  by_cases hi : i < xs.length
  · have hi' : i < ys.length := by omega
    rw [List.getElem?_eq_getElem hi, List.getElem?_eq_getElem hi']
    exact .some (h.get hi hi')
  · rw [List.getElem?_eq_none (by omega), List.getElem?_eq_none (by omega)]
    exact .none

-- Of two related lists both are empty, or neither is.
theorem isEmpty_eq (h : List.Forall₂ R xs ys) : xs.isEmpty = ys.isEmpty := by
  cases h <;> rfl

/-! ## Selected elements -/

-- A search finds the only element that it can.
theorem find?_of_unique {p : α → Bool} {x : α} (hx : x ∈ xs) (hp : p x = true)
    (honly : ∀ y ∈ xs, p y = true → y = x) : xs.find? p = some x := by
  cases hfind : xs.find? p with
  | none => exact absurd hp (List.find?_eq_none.1 hfind x hx)
  | some y => rw [honly y (List.mem_of_find?_eq_some hfind) (List.find?_some hfind)]

-- The first elements that satisfy a condition are related, where related elements satisfy it alike.
theorem rel_find? {p : α → Bool} {q : β → Bool} (h : List.Forall₂ R xs ys)
    (hpq : ∀ x y, R x y → p x = q y) : Option.Rel R (xs.find? p) (ys.find? q) := by
  induction h with
  | nil => exact .none
  | @cons x y xs ys hxy _ ih =>
    rw [List.find?_cons, List.find?_cons, ← hpq x y hxy]
    cases p x with
    | true => exact .some hxy
    | false => exact ih

-- Elements that are kept are related, where related elements are kept alike.
theorem filter {p : α → Bool} {q : β → Bool} (h : List.Forall₂ R xs ys)
    (hpq : ∀ x y, R x y → p x = q y) : List.Forall₂ R (xs.filter p) (ys.filter q) := by
  refine List.rel_filter (fun x y hxy => ?_) h
  exact Bool.eq_iff_iff.1 (hpq x y hxy)

-- What depends on related elements alike makes the same list of both.
theorem map_eq {γ : Type} {f : α → γ} {g : β → γ} (h : List.Forall₂ R xs ys)
    (hfg : ∀ x y, R x y → f x = g y) : xs.map f = ys.map g := by
  rw [← List.forall₂_eq_eq_eq, List.forall₂_map_left_iff, List.forall₂_map_right_iff]
  exact h.imp hfg

-- The last element that gives a result, with what stands around it.
theorem findSome?_reverse_iff {f : α → Option β} {b : β} :
    xs.reverse.findSome? f = some b ↔
      ∃ before x after, xs = before ++ x :: after ∧ f x = some b ∧ ∀ y ∈ after, f y = none := by
  rw [List.findSome?_eq_some_iff]
  constructor
  · rintro ⟨after, x, before, heq, hx, hafter⟩
    refine ⟨before.reverse, x, after.reverse, ?_, hx, fun y hy => hafter y (List.mem_reverse.1 hy)⟩
    simpa using congrArg List.reverse heq
  · rintro ⟨before, x, after, rfl, hx, hafter⟩
    refine ⟨after.reverse, x, before.reverse, by simp, hx, fun y hy => ?_⟩
    exact hafter y (List.mem_reverse.1 hy)

/-! ## Optional elements -/

section

variable {o : Option α} {o' : Option β}

-- Of two related options both hold something, or none does.
theorem isSome_eq (h : Option.Rel R o o') : o.isSome = o'.isSome := by
  cases h <;> rfl

theorem rel_imp {S : α → β → Prop} (h : Option.Rel R o o') (hRS : ∀ x y, R x y → S x y) :
    Option.Rel S o o' := by
  cases h with
  | none => exact .none
  | some hxy => exact .some (hRS _ _ hxy)

theorem rel_map {γ δ : Type} {S : γ → δ → Prop} {f : α → γ} {g : β → δ} (h : Option.Rel R o o')
    (hfg : ∀ x y, R x y → S (f x) (g y)) : Option.Rel S (o.map f) (o'.map g) := by
  cases h with
  | none => exact .none
  | some hxy => exact .some (hfg _ _ hxy)

theorem rel_bind {γ δ : Type} {S : γ → δ → Prop} {f : α → Option γ} {g : β → Option δ}
    (h : Option.Rel R o o') (hfg : ∀ x y, R x y → Option.Rel S (f x) (g y)) :
    Option.Rel S (o.bind f) (o'.bind g) := by
  cases h with
  | none => exact .none
  | some hxy => exact hfg _ _ hxy

-- The first of two options that holds something is related to the first of two related ones.
theorem rel_or {a : Option α} {b : Option β} (h : Option.Rel R o o') (hab : Option.Rel R a b) :
    Option.Rel R (o.or a) (o'.or b) := by
  cases h with
  | none => exact hab
  | some hxy => exact .some hxy

end

/-! ## Lookups -/

-- The value that is found from the end is the last one under the key.
theorem lookup_reverse {κ : Type} [BEq κ] [LawfulBEq κ] (entries : List (κ × α)) (key : κ) :
    entries.reverse.lookup key =
      ((entries.filter fun entry => entry.1 == key).map (·.2)).getLast? := by
  induction entries with
  | nil => rfl
  | cons entry rest ih =>
    rw [List.reverse_cons, List.lookup_append, ih, List.filter_cons]
    by_cases h : entry.1 = key
    · have hlast : [entry].lookup key = some entry.2 := by rw [← h, List.lookup_cons_self]
      rw [hlast, if_pos (by simpa using h), List.map_cons, List.getLast?_cons]
      cases ((rest.filter fun entry => entry.1 == key).map (·.2)).getLast? <;> rfl
    · have hnone : [entry].lookup key = none := by
        rw [List.lookup_cons, show (key == entry.1) = false by simpa using Ne.symm h]
        rfl
      rw [hnone, if_neg (by simpa using h), Option.or_none]

-- Pairs with the same keys and related values have related values under every key, or none.
theorem rel_listLookup {κ : Type} [BEq κ] [LawfulBEq κ] {R : κ → α → β → Prop}
    {entries : List (κ × α)} {others : List (κ × β)}
    (h : List.Forall₂ (fun f g => f.1 = g.1 ∧ R f.1 f.2 g.2) entries others) (key : κ) :
    Option.Rel (R key) (entries.lookup key) (others.lookup key) := by
  induction h with
  | nil => exact .none
  | @cons f g entries others hfg _ ih =>
    rcases f with ⟨k, v⟩
    rcases g with ⟨k', w⟩
    rcases hfg with ⟨rfl, hvw⟩
    by_cases hkey : key = k
    · subst hkey
      rw [List.lookup_cons_self, List.lookup_cons_self]
      exact .some hvw
    · have hne : (key == k) = false := by simpa using hkey
      rw [List.lookup_cons, List.lookup_cons, hne]
      exact ih

-- Fields with the same keys and related values have related values under every name, or none.
theorem rel_lookup {R : Scalar → Value → Value → Prop} {fields others : Fields}
    (h : List.Forall₂ (fun f g => f.1 = g.1 ∧ R f.1 f.2 g.2) fields others) (name : String) :
    Option.Rel (R (.str name)) (Value.lookup fields name) (Value.lookup others name) :=
  rel_listLookup h (.str name)

end ApiContract.Related
