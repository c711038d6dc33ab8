import ApiContract.Number.Decimal
import ApiContract.Value.Fields

/-!
# Reading JSON

A JSON text is one value with blanks around it. A number with a fraction or an exponent is a
binary64 number, any other an integer of any size; `NaN`, `Infinity` and `-Infinity` are read as
well. Each reading step yields what it read and the characters behind it. A field that is written twice keeps its first place and its last value. Control characters
are refused inside strings.
-/

namespace ApiContract.Json

/-- Is the character one of the four blanks of JSON? -/
def isBlank (c : Char) : Bool := c == ' ' || c == '\t' || c == '\n' || c == '\r'

/-- The characters behind the blanks at the front. -/
def skipBlanks (cs : List Char) : List Char := cs.dropWhile isBlank

/-- The characters behind `word`, which has to be at the front. -/
def afterWord : List Char → List Char → Option (List Char)
  | [], cs => some cs
  | w :: ws, c :: cs => if w == c then afterWord ws cs else none
  | _ :: _, [] => none

/-- Four hexadecimal digits. -/
def readUnit : List Char → Option (Nat × List Char)
  | a :: b :: c :: d :: rest =>
    if [a, b, c, d].all isHexDigit then some (natOfHexDigits [a, b, c, d], rest) else none
  | _ => none

/-- The character behind `\u`: one unit, or two units that form a surrogate pair. A surrogate that
stands alone is read as the replacement character. -/
def readUnicodeEscape (cs : List Char) : Option (Char × List Char) := do
  let (hi, rest) ← readUnit cs
  if 0xD800 ≤ hi && hi < 0xDC00 then
    match rest with
    | '\\' :: 'u' :: rest' =>
      match readUnit rest' with
      | some (lo, rest'') =>
        if 0xDC00 ≤ lo && lo < 0xE000 then
          return (Char.ofNat (0x10000 + (hi - 0xD800) * 0x400 + (lo - 0xDC00)), rest'')
        else return (Char.ofNat 0xFFFD, rest)
      | none => none
    | _ => return (Char.ofNat 0xFFFD, rest)
  else if 0xDC00 ≤ hi && hi < 0xE000 then return (Char.ofNat 0xFFFD, rest)
  else return (Char.ofNat hi, rest)

/-- The character behind a backslash. -/
def readEscape : List Char → Option (Char × List Char)
  | '"' :: rest => some ('"', rest)
  | '\\' :: rest => some ('\\', rest)
  | '/' :: rest => some ('/', rest)
  | 'b' :: rest => some (Char.ofNat 8, rest)
  | 'f' :: rest => some (Char.ofNat 12, rest)
  | 'n' :: rest => some ('\n', rest)
  | 'r' :: rest => some ('\r', rest)
  | 't' :: rest => some ('\t', rest)
  | 'u' :: rest => readUnicodeEscape rest
  | _ => none

/-- The characters of a string up to its closing quote; `done` holds those before, in reverse. -/
def readChars : Nat → List Char → List Char → Option (String × List Char)
  | 0, _, _ => none
  | _ + 1, _, [] => none
  | fuel + 1, done, c :: rest =>
    if c == '"' then some (String.ofList done.reverse, rest)
    else if c == '\\' then do
      let (d, rest) ← readEscape rest
      readChars fuel (d :: done) rest
    else if c.toNat < 0x20 then none
    else readChars fuel (c :: done) rest

/-- The string whose opening quote has been read. -/
def readString (cs : List Char) : Option (String × List Char) := readChars (cs.length + 1) [] cs

/-- The integer part of a number: a zero, or digits that do not start with one. -/
def readWhole (cs : List Char) : Option (List Char × List Char) :=
  match cs with
  | '0' :: rest => some (['0'], rest)
  | _ =>
    let digits := cs.takeWhile isDigit
    if digits.isEmpty then none else some (digits, cs.dropWhile isDigit)

/-- The digits behind a point, if there are a point and a digit. -/
def readFraction : List Char → Option (List Char × List Char)
  | '.' :: rest =>
    let digits := rest.takeWhile isDigit
    if digits.isEmpty then none else some (digits, rest.dropWhile isDigit)
  | _ => none

/-- The exponent, if there are its mark and a digit. -/
def readExponent : List Char → Option (Int × List Char)
  | c :: rest =>
    if c == 'e' || c == 'E' then
      let (negative, rest) := match rest with
        | '-' :: r => (true, r)
        | '+' :: r => (false, r)
        | r => (false, r)
      let digits := rest.takeWhile isDigit
      if digits.isEmpty then none
      else
        let n : Int := natOfDigits digits
        some (if negative then -n else n, rest.dropWhile isDigit)
    else none
  | [] => none

/-- A number without its sign. -/
def readMagnitude (negative : Bool) (cs : List Char) : Option (Value × List Char) := do
  let (whole, rest) ← readWhole cs
  let fraction := readFraction rest
  let rest := match fraction with | some (_, r) => r | none => rest
  let exponent := readExponent rest
  let rest := match exponent with | some (_, r) => r | none => rest
  if fraction.isNone && exponent.isNone then
    let n : Int := natOfDigits whole
    return (.int (if negative then -n else n), rest)
  else
    let digits := match fraction with | some (ds, _) => ds | none => []
    let power := match exponent with | some (e, _) => e | none => 0
    return (.float (Binary64.ofDecimal negative (whole ++ digits) (power - digits.length)), rest)

/-- A number, or the name of an infinity. -/
def readNumber (cs : List Char) : Option (Value × List Char) :=
  match cs with
  | '-' :: rest =>
    match afterWord "Infinity".toList rest with
    | some rest => some (.float (.infinite true), rest)
    | none => readMagnitude true rest
  | _ => readMagnitude false cs

/-- A value that is neither a list nor an object. -/
def readScalar (cs : List Char) : Option (Value × List Char) :=
  match cs with
  | '"' :: rest => (readString rest).map fun (s, rest) => (.str s, rest)
  | _ =>
    let words : List (String × Value) :=
      [("null", .null), ("true", .bool true), ("false", .bool false), ("NaN", .float .nan),
        ("Infinity", .float (.infinite false))]
    match words.findSome? fun (w, v) => (afterWord w.toList cs).map (v, ·) with
    | some found => some found
    | none => readNumber cs

mutual
/-- A value, without blanks before it. -/
def readValue : Nat → List Char → Option (Value × List Char)
  | 0, _ => none
  | fuel + 1, '[' :: rest =>
    match skipBlanks rest with
    | ']' :: rest => some (.list [], rest)
    | rest => do
      let (items, rest) ← readItems fuel rest
      return (.list items, rest)
  | fuel + 1, '\x7b' :: rest =>
    match skipBlanks rest with
    | '\x7d' :: rest => some (.object [], rest)
    | rest => do
      let (pairs, rest) ← readFields fuel rest
      return (.object (Fields.ofPairs pairs), rest)
  | _ + 1, cs => readScalar cs

/-- The items of a list up to its closing bracket. -/
def readItems : Nat → List Char → Option (List Value × List Char)
  | 0, _ => none
  | fuel + 1, cs => do
    let (v, rest) ← readValue fuel cs
    match skipBlanks rest with
    | ']' :: rest => return ([v], rest)
    | ',' :: rest => do
      let (items, rest) ← readItems fuel (skipBlanks rest)
      return (v :: items, rest)
    | _ => none

/-- The fields of an object up to its closing brace. -/
def readFields : Nat → List Char → Option (List (Scalar × Value) × List Char)
  | 0, _ => none
  | fuel + 1, '"' :: cs => do
    let (key, rest) ← readString cs
    match skipBlanks rest with
    | ':' :: rest => do
      let (v, rest) ← readValue fuel (skipBlanks rest)
      match skipBlanks rest with
      | '\x7d' :: rest => return ([(.str key, v)], rest)
      | ',' :: rest => do
        let (pairs, rest) ← readFields fuel (skipBlanks rest)
        return ((.str key, v) :: pairs, rest)
      | _ => none
    | _ => none
  | _ + 1, _ => none
end

/-- The value that a JSON text stands for; nothing when the text is not well-formed. A value takes
at most two steps for each of its characters, so the fuel never runs out. -/
def read? (text : String) : Option Value := do
  let cs := skipBlanks text.toList
  let (v, rest) ← readValue (2 * cs.length + 2) cs
  if (skipBlanks rest).isEmpty then some v else none

end ApiContract.Json
