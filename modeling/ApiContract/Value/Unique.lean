import ApiContract.Value.Equality

/-!
# Uniqueness of list items

The items of a list are unique when no two neighbours are equal once the list is sorted. Where the
items cannot be sorted, because a comparison that the sort needs does not exist, every pair is
compared.
-/

namespace ApiContract

namespace Value

mutual
/-- Does the first value come before the second? Nothing when they cannot be compared: numbers
compare with numbers, strings with strings by code point, and lists with lists by the first pair of
items that differs. -/
def before? : Value → Value → Option Bool
  | .str s, .str t => some (decide (s < t))
  | .list xs, .list ys => itemsBefore? xs ys
  | .scalar a, .scalar b =>
    match a.number?, b.number? with
    | some m, some n => some (m.lt n)
    | _, _ => none
  | _, _ => none

/-- Does the first list come before the second? -/
def itemsBefore? : List Value → List Value → Option Bool
  | _, [] => some false
  | [], _ :: _ => some true
  | x :: xs, y :: ys => if loosely x y then itemsBefore? xs ys else before? x y
end

/-- The order of the items of a list that is to be sorted: a truth value compares with nothing. -/
def itemBefore? : Value → Value → Option Bool
  | .bool _, _ => none
  | _, .bool _ => none
  | a, b => before? a b

/-- The place in `sorted`, between `lo` and `hi`, behind all items that `item` does not come before,
found by halving; the fuel need not exceed `hi - lo`. -/
def placeFor? (sorted : Array Value) (item : Value) : Nat → Nat → Nat → Option Nat
  | 0, lo, _ => some lo
  | fuel + 1, lo, hi =>
    if lo < hi then
      let mid := (lo + hi) / 2
      match sorted[mid]? with
      | none => some lo
      | some other =>
        match itemBefore? item other with
        | none => none
        | some true => placeFor? sorted item fuel lo mid
        | some false => placeFor? sorted item fuel (mid + 1) hi
    else some lo

/-- The items put in order one after the other, an item behind those equal to it; nothing when two
items that have to be compared cannot be. -/
def sortItems? (items : List Value) : Option (List Value) :=
  items.foldlM (fun (sorted : List Value) item => do
    let place ← placeFor? sorted.toArray item sorted.length 0 sorted.length
    return sorted.take place ++ item :: sorted.drop place) []

/-- Are no two neighbours equal? -/
def neighboursDiffer : List Value → Bool
  | [] => true
  | [_] => true
  | x :: y :: rest => !equal x y && neighboursDiffer (y :: rest)

/-- Are no two items equal? -/
def allDiffer : List Value → Bool
  | [] => true
  | x :: rest => !rest.any (equal x) && allDiffer rest

/-- Are the items of a list unique? -/
def unique (items : List Value) : Bool :=
  match sortItems? items with
  | some sorted => neighboursDiffer sorted
  | none => allDiffer items

end Value

end ApiContract
