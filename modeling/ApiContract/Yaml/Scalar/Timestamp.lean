import ApiContract.Calendar.Date
import ApiContract.Number.Decimal

/-!
# Timestamps

A timestamp is a date, which a time of day with an optional fraction and an optional offset may
follow. Of the fraction six digits count.
-/

namespace ApiContract.Yaml

/-- The parts of a timestamp, not yet known to be a real date and time of day. -/
structure Timestamp where
  date : Date
  /-- The month and the day have two digits each. -/
  isPadded : Bool
  time : Option (Nat × Nat × Nat × Nat)
  offset : Option Int

namespace Timestamp

/-- A number with a least and a greatest count of digits, how many it has, and what follows it. -/
def digits? (least most : Nat) (cs : List Char) : Option (Nat × Nat × List Char) :=
  let ds := (cs.take most).takeWhile isDigit
  if ds.length < least then none else some (natOfDigits ds, ds.length, cs.drop ds.length)

/-- What follows a character, if the list starts with it. -/
def after? (c : Char) : List Char → Option (List Char)
  | d :: cs => if d == c then some cs else none
  | [] => none

/-- Is the character a space or a tab? -/
def isBlank (c : Char) : Bool := c == ' ' || c == '\t'

/-- What follows the mark between a date and a time of day. -/
def afterSeparator? : List Char → Option (List Char)
  | 'T' :: cs => some cs
  | 't' :: cs => some cs
  | c :: cs => if isBlank c then some (cs.dropWhile isBlank) else none
  | [] => none

/-- Six digits of a fraction as millionths, and what follows the fraction. -/
def fraction : List Char → Nat × List Char
  | '.' :: cs =>
    let ds := (cs.takeWhile isDigit).take 6
    (natOfDigits ds * Nat.pow 10 (6 - ds.length), cs.dropWhile isDigit)
  | cs => (0, cs)

/-- The offset from universal time that a text is, in seconds; an empty text is none. -/
def offset? (cs : List Char) : Option (Option Int) :=
  if cs.isEmpty then some none
  else
    match cs.dropWhile isBlank with
    | ['Z'] => some (some 0)
    | sign :: cs =>
      if sign == '+' || sign == '-' then do
        let (hours, _, cs) ← digits? 1 2 cs
        let minutes ← match cs with
          | [] => some 0
          | ':' :: cs => do
            let (minutes, _, cs) ← digits? 2 2 cs
            if cs.isEmpty then some minutes else none
          | _ => none
        let seconds : Int := hours * 3600 + minutes * 60
        return some (if sign == '-' then -seconds else seconds)
      else none
    | [] => none

/-- The timestamp that a text is spelled like. -/
def read? (cs : List Char) : Option Timestamp := do
  let (year, _, cs) ← digits? 4 4 cs
  let (month, m, cs) ← digits? 1 2 (← after? '-' cs)
  let (day, d, cs) ← digits? 1 2 (← after? '-' cs)
  let date : Date := ⟨year, month, day⟩
  let isPadded := m == 2 && d == 2
  if cs.isEmpty then return ⟨date, isPadded, none, none⟩
  let (hour, _, cs) ← digits? 1 2 (← afterSeparator? cs)
  let (minute, _, cs) ← digits? 2 2 (← after? ':' cs)
  let (second, _, cs) ← digits? 2 2 (← after? ':' cs)
  let (millionths, cs) := fraction cs
  return ⟨date, isPadded, some (hour, minute, second, millionths), ← offset? cs⟩

/-- The moment that a date and a time of day make up. -/
def moment (t : Timestamp) (time : Nat × Nat × Nat × Nat) : Moment :=
  let (hour, minute, second, millionths) := time
  ⟨t.date, hour, minute, second, millionths, t.offset⟩

/-- Is the text a timestamp without being marked as one? A date on its own has to be padded then. -/
def isImplicit (cs : List Char) : Bool := (read? cs).any fun t => t.isPadded || t.time.isSome

end Timestamp

end ApiContract.Yaml
