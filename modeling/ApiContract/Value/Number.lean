import ApiContract.Value.Basic

/-!
# Numbers among values

Integers and binary64 numbers are compared by exact value. Where a keyword asks for a number as a
bound, a truth value counts as one or zero.
-/

namespace ApiContract

/-- An integer of any size or a binary64 number. -/
inductive Number
  | int (n : Int)
  | float (x : Binary64)
  deriving DecidableEq, Repr

namespace Number

/-- The exact value of a finite number. -/
def toRat? : Number → Option Rat
  | .int n => some n
  | .float x => x.toRat?

/-- The order of two numbers; a NaN has no place in it. -/
def compare? (a b : Number) : Option Ordering :=
  match a.toRat?, b.toRat? with
  | some p, some q => some (if p < q then .lt else if p = q then .eq else .gt)
  | some _, none => match b with
    | .float (.infinite negative) => some (if negative then .gt else .lt)
    | _ => none
  | none, some _ => match a with
    | .float (.infinite negative) => some (if negative then .lt else .gt)
    | _ => none
  | none, none => match a, b with
    | .float (.infinite s), .float (.infinite t) =>
      some (if s = t then .eq else if s then .lt else .gt)
    | _, _ => none

/-- Is the first number smaller? -/
def lt (a b : Number) : Bool := compare? a b == some .lt

/-- Is the first number smaller or equal? -/
def le (a b : Number) : Bool := compare? a b == some .lt || compare? a b == some .eq

/-- Are the numbers equal in exact value? -/
def eq (a b : Number) : Bool := compare? a b == some .eq

/-- The nearest binary64 number, or nothing when an integer is too large for any. -/
def toBinary64? : Number → Option Binary64
  | .int n => Binary64.ofInt? n
  | .float x => some x

end Number

/-- The number that a scalar is worth; a truth value is worth one or zero. -/
def Scalar.number? : Scalar → Option Number
  | .bool b => some (.int (if b then 1 else 0))
  | .int n => some (.int n)
  | .float x => some (.float x)
  | _ => none

/-- Are two scalars the same key? Numbers and truth values are the same key when they are worth the
same number, and what is no number is the same key as itself. -/
def Scalar.sameKey (a b : Scalar) : Bool :=
  match a.number?, b.number? with
  | some m, some n => a == b || m.eq n
  | none, none => a == b
  | _, _ => false

namespace Value

/-- The number that a value is worth; a truth value is worth one or zero. -/
def number? : Value → Option Number
  | .scalar s => s.number?
  | _ => none

/-- The number that a value is; a truth value is none. -/
def properNumber? : Value → Option Number
  | .int n => some (.int n)
  | .float x => some (.float x)
  | _ => none

/-- Is the value worth the given integer? -/
def worth (v : Value) (n : Int) : Bool := v.number?.any (·.eq (.int n))

end Value

end ApiContract
