import ApiContract.Calendar.Date
import ApiContract.Number.Decimal
import ApiContract.Text.Word

/-!
# Dates, times and durations as text

A date is `yyyy-mm-dd`, a date with time follows RFC 3339, a time is hours, minutes and seconds
of one or two digits, and a duration follows ISO 8601.
-/

namespace ApiContract.Format

/-- The number spelled by the first `count` characters, if they are digits, and the rest. -/
def digits? (count : Nat) (cs : List Char) : Option (Nat × List Char) :=
  let ds := cs.take count
  if ds.length == count && ds.all isDigit then some (natOfDigits ds, cs.drop count) else none

/-- The characters behind `c`, which has to come first. -/
def after? (c : Char) : List Char → Option (List Char)
  | d :: rest => if c == d then some rest else none
  | [] => none

/-- The date at the front. -/
def dateAhead? (cs : List Char) : Option (Date × List Char) := do
  let (year, cs) ← digits? 4 cs
  let (month, cs) ← digits? 2 (← after? '-' cs)
  let (day, cs) ← digits? 2 (← after? '-' cs)
  return (⟨year, month, day⟩, cs)

/-- Is the text a real date? -/
def isDate (s : String) : Bool :=
  match dateAhead? s.toList with
  | some (d, []) => d.isReal
  | _ => false

/-- The characters behind a fraction of a second, if there is one. -/
def afterFraction? : List Char → Option (List Char)
  | '.' :: rest =>
    let ds := rest.takeWhile isDigit
    if ds.isEmpty then none else some (rest.dropWhile isDigit)
  | cs => some cs

/-- Is the text an offset from universal time? -/
def isOffset : List Char → Bool
  | ['Z'] => true
  | sign :: rest =>
    (sign == '+' || sign == '-') &&
      (match (do
          let (hour, cs) ← digits? 2 rest
          let (minute, cs) ← digits? 2 (← after? ':' cs)
          if cs.isEmpty then return (hour, minute) else none : Option (Nat × Nat)) with
        | some (hour, minute) => hour < 24 && minute < 60
        | none => false)
  | [] => false

/-- Is the text a real date and time with an offset? Letters may be of either case. -/
def isDateTime (s : String) : Bool :=
  match (do
      let (date, cs) ← dateAhead? (s.toList.map Char.toUpper)
      let (hour, cs) ← digits? 2 (← after? 'T' cs)
      let (minute, cs) ← digits? 2 (← after? ':' cs)
      let (second, cs) ← digits? 2 (← after? ':' cs)
      let cs ← afterFraction? cs
      return (date.isReal && hour < 24 && minute < 60 && second < 60 && isOffset cs) :
        Option Bool) with
  | some ok => ok
  | none => false

/-- Is the text a number of one or two digits that is smaller than `limit`? A last digit that cannot
break the limit may come from any script. -/
def isTimePart (limit : Nat) : List Char → Bool
  | [d] => Text.isDecimal d
  | [t, d] =>
    let tens := 10 * digitValue t
    isDigit t && (if tens + 9 < limit then Text.isDecimal d else isDigit d && tens + digitValue d < limit)
  | _ => false

/-- Is the text hours, minutes and seconds between colons? -/
def isTime (s : String) : Bool :=
  match s.splitOn ":" with
  | [hour, minute, second] =>
    isTimePart 24 hour.toList && isTimePart 60 minute.toList && isTimePart 60 second.toList
  | _ => false

/-- The characters behind a number, which may have a fraction. -/
def afterAmount? (cs : List Char) : Option (List Char) :=
  let whole := cs.takeWhile isDigit
  let rest := cs.dropWhile isDigit
  if whole.isEmpty then none
  else
    match rest with
    | '.' :: more | ',' :: more =>
      if (more.takeWhile isDigit).isEmpty then none else some (more.dropWhile isDigit)
    | _ => some rest

/-- The characters behind amounts whose units come from `units`, in that order, and whether there
was an amount. -/
def afterAmounts (units : List Char) (cs : List Char) : Bool × List Char :=
  match units with
  | [] => (false, cs)
  | unit :: more =>
    match (do after? unit (← afterAmount? cs) : Option (List Char)) with
    | some rest => (true, (afterAmounts more rest).2)
    | none => afterAmounts more cs

/-- Is the text a duration: weeks, or parts of a date and parts of a time in order? -/
def isDuration (s : String) : Bool :=
  match s.toList with
  | 'P' :: cs =>
    if (afterAmounts ['W'] cs) == (true, []) then true
    else
      match afterAmounts ['Y', 'M', 'D'] cs with
      | (found, []) => found
      | (_, 'T' :: rest) => afterAmounts ['H', 'M', 'S'] rest == (true, [])
      | _ => false
  | _ => false

end ApiContract.Format
