import ApiContract.Number.Binary64

/-!
# Reading decimals

A decimal is a digit string with an optional fraction and exponent. Its value is exact; the nearest
binary64 number is one rounding away from it.
-/

namespace ApiContract

/-- Is the character one of `0` to `9`? -/
def isDigit (c : Char) : Bool := '0' ≤ c && c ≤ '9'

/-- The value of an ASCII digit. -/
def digitValue (c : Char) : Nat := c.toNat - '0'.toNat

/-- The number that a list of ASCII digits spells in base ten; the empty list spells zero. -/
def natOfDigits (cs : List Char) : Nat := cs.foldl (fun n c => 10 * n + digitValue c) 0

@[simp] theorem natOfDigits_nil : natOfDigits [] = 0 := rfl

/-- A further digit multiplies by ten and adds its value. -/
theorem natOfDigits_concat (cs : List Char) (c : Char) :
    natOfDigits (cs ++ [c]) = 10 * natOfDigits cs + digitValue c := by
  simp [natOfDigits, List.foldl_append]

/-- The value of a hexadecimal digit of either case. -/
def hexDigit? (c : Char) : Option Nat :=
  if isDigit c then some (digitValue c)
  else if 'a' ≤ c && c ≤ 'f' then some (c.toNat - 'a'.toNat + 10)
  else if 'A' ≤ c && c ≤ 'F' then some (c.toNat - 'A'.toNat + 10)
  else none

/-- Is the character a hexadecimal digit of either case? -/
def isHexDigit (c : Char) : Bool := (hexDigit? c).isSome

/-- The number that hexadecimal digits spell; characters that are no digits count as zero. -/
def natOfHexDigits (cs : List Char) : Nat := cs.foldl (fun n c => 16 * n + (hexDigit? c).getD 0) 0

namespace Binary64

/-- The number nearest to `digits * 10^power`. Exponents far outside the range of binary64 are
answered without computing the power of ten. -/
def ofDecimal (negative : Bool) (digits : List Char) (power : Int) : Binary64 :=
  let significant := digits.dropWhile (· == '0')
  let size : Int := significant.length + power
  if significant.isEmpty then zero negative
  else if 400 < size then .infinite negative
  else if size < -400 then zero negative
  else
    let n := natOfDigits significant
    if 0 ≤ power then ofRatio negative (n * Nat.pow 10 power.toNat) 1
    else ofRatio negative n (Nat.pow 10 (-power).toNat)

end Binary64

end ApiContract
