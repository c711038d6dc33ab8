/-!
# Calendar dates

Dates and moments of the proleptic Gregorian calendar, from year 1 on.
-/

namespace ApiContract

/-- Does the year have a 29th of February? -/
def isLeapYear (year : Nat) : Bool := year % 4 == 0 && (year % 100 != 0 || year % 400 == 0)

/-- The number of days of a month; months outside of 1 to 12 have none. -/
def daysInMonth (year month : Nat) : Nat :=
  match month with
  | 2 => if isLeapYear year then 29 else 28
  | 4 | 6 | 9 | 11 => 30
  | 1 | 3 | 5 | 7 | 8 | 10 | 12 => 31
  | _ => 0

/-- Only the months 1 to 12 have days. -/
theorem month_of_daysInMonth_pos {year month : Nat} (h : 0 < daysInMonth year month) :
    1 ≤ month ∧ month ≤ 12 := by
  unfold daysInMonth at h
  split at h <;> simp_all

/-- A calendar date. -/
structure Date where
  year : Nat
  month : Nat
  day : Nat
  deriving DecidableEq, Repr

/-- A date with a time of day and, when it is known, the offset from universal time in seconds. -/
structure Moment where
  date : Date
  hour : Nat
  minute : Nat
  second : Nat
  microsecond : Nat
  offset : Option Int
  deriving DecidableEq, Repr

namespace Date

/-- A date is real when its year is at least 1 and its month has the day. -/
def isReal (d : Date) : Bool := 1 ≤ d.year && 1 ≤ d.day && d.day ≤ daysInMonth d.year d.month

/-- A number with zeros in front up to the given width. -/
def padded (width n : Nat) : String :=
  let digits := toString n
  String.ofList (List.replicate (width - digits.length) '0') ++ digits

/-- The date as `yyyy-mm-dd`. -/
def text (d : Date) : String :=
  padded 4 d.year ++ "-" ++ padded 2 d.month ++ "-" ++ padded 2 d.day

end Date

namespace Moment

/-- A moment is real when its date and its time of day are, with no leap second. -/
def isReal (m : Moment) : Bool :=
  m.date.isReal && m.hour < 24 && m.minute < 60 && m.second < 60 && m.microsecond < 1000000 &&
    (match m.offset with | none => true | some o => o.natAbs < 86400)

/-- An offset as `+hh:mm`, with seconds only when there are any. -/
def offsetText (o : Int) : String :=
  let n := o.natAbs
  (if o < 0 then "-" else "+") ++ Date.padded 2 (n / 3600) ++ ":" ++ Date.padded 2 (n / 60 % 60) ++
    (if n % 60 = 0 then "" else ":" ++ Date.padded 2 (n % 60))

/-- The moment as `yyyy-mm-dd hh:mm:ss`, with a fraction and an offset when they are there. -/
def text (m : Moment) : String :=
  m.date.text ++ " " ++ Date.padded 2 m.hour ++ ":" ++ Date.padded 2 m.minute ++ ":" ++
    Date.padded 2 m.second ++
    (if m.microsecond = 0 then "" else "." ++ Date.padded 6 m.microsecond) ++
    (match m.offset with | none => "" | some o => offsetText o)

end Moment

end ApiContract
