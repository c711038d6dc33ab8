import ApiContract.Number.Binary64

/-!
# Shortest decimal text

Every finite number is written with the fewest decimal digits that read back as that number, and
among those with the ones nearest to it. The digits are found by exact arithmetic on the interval
of rationals that round to the number; `Notation` then decides where the point and the exponent go.
-/

namespace ApiContract

/-- A positive decimal `0.d₁d₂… * 10^point`. -/
structure Decimal where
  digits : List Nat
  point : Int
  deriving DecidableEq, Repr

namespace Decimal

/-- The decimal digits of a natural number, most significant first; zero has the single digit 0. -/
def digitsOf (n : Nat) : List Nat := (Nat.toDigits 10 n).map fun c => c.toNat - '0'.toNat

/-- Zeros at the end of a list of digits carry no value after the point. -/
def dropTrailingZeros (ds : List Nat) : List Nat := (ds.reverse.dropWhile (· == 0)).reverse

/-- The smallest power of ten above `num / den`, as an exponent. -/
def pointOf (num den : Nat) : Int :=
  let guess : Int := ((digitsOf num).length : Int) - (digitsOf den).length
  let below : Bool :=
    if 0 ≤ guess then num < den * Nat.pow 10 guess.toNat
    else num * Nat.pow 10 (-guess).toNat < den
  if below then guess else guess + 1

/-- The rationals that round to a number: the number itself is `value / den`, the ends are
`low / den` and `high / den`, and they belong to the interval when `closed` holds. -/
structure RoundingInterval where
  value : Nat
  low : Nat
  high : Nat
  den : Nat
  closed : Bool

/-- The interval of `m * 2^e`. Below a power of two the neighbour is nearer by half. -/
def RoundingInterval.of (m : Nat) (e : Int) : RoundingInterval :=
  let isLeast := m = Nat.pow 2 (Binary64.precision - 1) ∧ Binary64.minExponent < e
  let lower := if isLeast then 4 * m - 1 else 4 * m - 2
  let up := Nat.pow 2 (e - 2).toNat
  { value := 4 * m * up, low := lower * up, high := (4 * m + 2) * up, den := Nat.pow 2 (2 - e).toNat,
    closed := m % 2 = 0 }

/-- Does `d * unitNum / unitDen` lie in the interval? -/
def RoundingInterval.contains (i : RoundingInterval) (d unitNum unitDen : Nat) : Bool :=
  let x := d * unitNum * i.den
  let low := i.low * unitDen
  let high := i.high * unitDen
  if i.closed then low ≤ x && x ≤ high else low < x && x < high

/-- Of the two multiples of the unit around the value, the one in the interval that is nearer to the
value; a tie goes to the even multiple. -/
def RoundingInterval.nearest? (i : RoundingInterval) (unitNum unitDen : Nat) : Option Nat :=
  let scaledValue := i.value * unitDen
  let unit := unitNum * i.den
  let d := scaledValue / unit
  let r := scaledValue % unit
  match i.contains d unitNum unitDen, i.contains (d + 1) unitNum unitDen with
  | true, true =>
    some (if 2 * r < unit then d else if unit < 2 * r then d + 1 else if d % 2 = 0 then d else d + 1)
  | true, false => some d
  | false, true => some (d + 1)
  | false, false => none

/-- The shortest decimal of `m * 2^e` with at least `17 - fuel` digits. -/
def shortestFrom (i : RoundingInterval) (point : Int) : Nat → Nat → Decimal
  | count, 0 =>
    let unit : Int := point - count
    let d := (i.value * Nat.pow 10 (-unit).toNat) / (Nat.pow 10 unit.toNat * i.den)
    ⟨dropTrailingZeros (digitsOf d), point⟩
  | count, fuel + 1 =>
    let unit : Int := point - count
    match i.nearest? (Nat.pow 10 unit.toNat) (Nat.pow 10 (-unit).toNat) with
    | some d =>
      let ds := digitsOf d
      ⟨dropTrailingZeros ds, unit + ds.length⟩
    | none => shortestFrom i point (count + 1) fuel

/-- The shortest decimal that reads back as the positive number `m * 2^e`. -/
def shortest (m : Nat) (e : Int) : Decimal :=
  let i := RoundingInterval.of m e
  shortestFrom i (pointOf i.value i.den) 1 17

end Decimal

/-- How a number is laid out once its digits are known. -/
structure FloatLayout where
  /-- The least decimal exponent written positionally. -/
  leastPositional : Int
  /-- The first decimal exponent no longer written positionally. -/
  endPositional : Int
  /-- The least number of exponent digits. -/
  exponentWidth : Nat
  infinity : String
  notANumber : String

namespace FloatLayout

/-- Digits as text. -/
def digitText (ds : List Nat) : String := String.ofList (ds.map Nat.digitChar)

/-- Zeros as text. -/
def zeros (n : Nat) : String := String.ofList (List.replicate n '0')

/-- A decimal with a point and no exponent; an integral one ends in `.0`. -/
def positional (d : Decimal) : String :=
  if d.point ≤ 0 then "0." ++ zeros (-d.point).toNat ++ digitText d.digits
  else
    let k := d.point.toNat
    if d.digits.length ≤ k then digitText d.digits ++ zeros (k - d.digits.length) ++ ".0"
    else digitText (d.digits.take k) ++ "." ++ digitText (d.digits.drop k)

/-- A decimal with one digit before the point and an exponent that always has a sign. -/
def scientific (layout : FloatLayout) (d : Decimal) : String :=
  let exponent := d.point - 1
  let text := toString exponent.natAbs
  let mantissa := match d.digits with
    | [] => "0"
    | [x] => digitText [x]
    | x :: rest => digitText [x] ++ "." ++ digitText rest
  mantissa ++ "e" ++ (if exponent < 0 then "-" else "+") ++
    zeros (layout.exponentWidth - text.length) ++ text

/-- The text of a number. -/
def write (layout : FloatLayout) : Binary64 → String
  | .nan => layout.notANumber
  | .infinite negative => (if negative then "-" else "") ++ layout.infinity
  | .finite negative m e =>
    let magnitude :=
      if m = 0 then "0.0"
      else
        let d := Decimal.shortest m e
        if layout.leastPositional ≤ d.point - 1 ∧ d.point - 1 < layout.endPositional then positional d
        else scientific layout d
    (if negative then "-" else "") ++ magnitude

end FloatLayout

end ApiContract
