/-!
# Binary64 numbers

A binary64 number is a sign, a significand and a power of two, or an infinity, or not a number.
Its exact value is a rational; `ofRatio` rounds a quotient of natural numbers to the nearest
binary64 number, a tie going to the even significand. Reading a decimal, widening an integer and
dividing are that one rounding.
-/

namespace ApiContract

/-- A double-precision binary number. `finite s m e` stands for `(-1)^s * m * 2^e`. -/
inductive Binary64
  | finite (negative : Bool) (significand : Nat) (exponent : Int)
  | infinite (negative : Bool)
  | nan
  deriving DecidableEq, Repr, Inhabited

namespace Binary64

/-- The exponent of the smallest positive number, below which no significand bit lies. -/
def minExponent : Int := -1074

/-- The largest exponent of a finite number with a 53-bit significand. -/
def maxExponent : Int := 971

/-- The number of bits of a significand. -/
def precision : Nat := 53

/-- Zero with the given sign. -/
def zero (negative : Bool) : Binary64 := .finite negative 0 minExponent

/-- The integer nearest to `num / den`, a half going to the even neighbour. -/
def roundHalfEven (num den : Nat) : Nat :=
  let q := num / den
  let r := num % den
  if 2 * r < den then q
  else if den < 2 * r then q + 1
  else if q % 2 = 0 then q else q + 1

/-- A quotient without remainder rounds to itself. -/
theorem roundHalfEven_of_mod_eq_zero (num den : Nat) (hpos : 0 < den) (h : num % den = 0) :
    roundHalfEven num den = num / den := by
  simp [roundHalfEven, h, hpos]

/-- `num / den` divided by `2^e`, as a quotient of natural numbers. -/
def scaled (num den : Nat) (e : Int) : Nat × Nat :=
  if 0 ≤ e then (num, den * Nat.pow 2 e.toNat) else (num * Nat.pow 2 (-e).toNat, den)

/-- The exponent at which `num / den` has a significand of 53 bits, but at least `minExponent`. -/
def exponentFor (num den : Nat) : Int :=
  let guess : Int := (num.log2 : Int) - den.log2 - (precision - 1 : Nat)
  let (n, d) := scaled num den guess
  max (if n / d < Nat.pow 2 (precision - 1) then guess - 1 else guess) minExponent

/-- The number nearest to `num / den`; beyond the largest finite number an infinity. -/
def ofRatio (negative : Bool) (num den : Nat) : Binary64 :=
  if num = 0 then zero negative
  else
    let e := exponentFor num den
    let (n, d) := scaled num den e
    let m := roundHalfEven n d
    let (m, e) := if m = Nat.pow 2 precision then (Nat.pow 2 (precision - 1), e + 1) else (m, e)
    if maxExponent < e then .infinite negative else .finite negative m e

/-- The number nearest to an exact value. -/
def ofRat (q : Rat) : Binary64 := ofRatio (decide (q < 0)) q.num.natAbs q.den

/-- The number nearest to an integer, or nothing when the integer is too large for any. -/
def ofInt? (n : Int) : Option Binary64 :=
  match ofRatio (decide (n < 0)) n.natAbs 1 with
  | .finite s m e => some (.finite s m e)
  | _ => none

/-- The exact value of a finite number. -/
def toRat? : Binary64 → Option Rat
  | .finite negative m e =>
    let magnitude : Rat :=
      if 0 ≤ e then (m * Nat.pow 2 e.toNat : Nat) else mkRat m (Nat.pow 2 (-e).toNat)
    some (if negative then -magnitude else magnitude)
  | _ => none

/-- The sign bit; a NaN has none. -/
def isNegative : Binary64 → Bool
  | .finite s _ _ => s
  | .infinite s => s
  | .nan => false

/-- Both zeros are zero. -/
def isZero : Binary64 → Bool
  | .finite _ 0 _ => true
  | _ => false

/-- An integral number, such as `2.0`; infinities and NaN are not integral. -/
def isIntegral (x : Binary64) : Bool :=
  match x.toRat? with
  | some q => q.den == 1
  | none => false

/-- The number with the opposite sign. -/
def neg : Binary64 → Binary64
  | .finite s m e => .finite (!s) m e
  | .infinite s => .infinite (!s)
  | .nan => .nan

/-- The quotient of two numbers, rounded once; nothing when the divisor is zero. -/
def div? (x y : Binary64) : Option Binary64 :=
  let negative := x.isNegative != y.isNegative
  match x, y with
  | .nan, y => if y.isZero then none else some .nan
  | .infinite _, .infinite _ => some .nan
  | .infinite _, y => if y.isZero then none else match y with
    | .nan => some .nan
    | _ => some (.infinite negative)
  | .finite .., .nan => some .nan
  | .finite .., .infinite _ => some (zero negative)
  | x, y =>
    match x.toRat?, y.toRat? with
    | some p, some q =>
      if q = 0 then none
      else
        let r := p / q
        some (ofRatio negative r.num.natAbs r.den)
    | _, _ => some .nan

end Binary64

end ApiContract
