/-!
# Sets of code points

A set of code points is kept as its maximal ranges in increasing order; membership is a binary
search.
-/

namespace ApiContract.Text

/-- Inclusive ranges of code points, disjoint and in increasing order. -/
abbrev CodeRanges := Array (Nat × Nat)

namespace CodeRanges

/-- Is `n` in one of the ranges with index in `[lo, hi)`? Each step halves the interval, so `fuel`
need not exceed its width. -/
def search (table : CodeRanges) (n : Nat) : Nat → Nat → Nat → Bool
  | 0, _, _ => false
  | fuel + 1, lo, hi =>
    if lo < hi then
      let mid := (lo + hi) / 2
      match table[mid]? with
      | none => false
      | some (first, last) =>
        if n < first then search table n fuel lo mid
        else if last < n then search table n fuel (mid + 1) hi
        else true
    else false

/-- Is the code point in the set? -/
def contains (table : CodeRanges) (n : Nat) : Bool := search table n (table.size + 1) 0 table.size

end CodeRanges

end ApiContract.Text
