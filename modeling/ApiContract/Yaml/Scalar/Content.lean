import ApiContract.Failure.Fault
import ApiContract.Text.Blank
import ApiContract.Text.Case
import ApiContract.Value.Basic
import ApiContract.Yaml.Node.Implicit

/-!
# What scalars stand for

The value of a scalar is read from its text as the tag says. A tag that is written may not fit the
text; then there is no value.
-/

namespace ApiContract.Yaml

/-- The text without underscores. -/
def unspaced (cs : List Char) : List Char := cs.filter (· != '_')

/-- The sign in front of a text, and the text behind it. -/
def signed : List Char → Bool × List Char
  | '-' :: cs => (true, cs)
  | '+' :: cs => (false, cs)
  | cs => (false, cs)

/-! ## Integers -/

/-- The value of a digit in a base up to sixteen. -/
def digitIn? (base : Nat) (c : Char) : Option Nat :=
  match hexDigit? c with
  | some d => if d < base then some d else none
  | none => none

/-- The number that digits spell in a base; there has to be a digit. -/
def natIn? (base : Nat) (cs : List Char) : Option Nat := do
  let ds ← cs.mapM (digitIn? base)
  if ds.isEmpty then none else return ds.foldl (fun n d => base * n + d) 0

/-- The digits behind the mark of a base, which may be missing. -/
def dropMark (mark : Char) : List Char → List Char
  | '0' :: c :: cs => if c == mark || c == mark.toUpper then cs else '0' :: c :: cs
  | cs => cs

/-- The letter in the mark of a base. -/
def markOf (base : Nat) : Option Char :=
  match base with
  | 2 => some 'b'
  | 8 => some 'o'
  | 16 => some 'x'
  | _ => none

/-- The integer that a text with a sign of its own spells in a base. -/
def intIn? (base : Nat) (cs : List Char) : Option Int := do
  let (negative, cs) := signed (Text.trimEnd (Text.trimStart cs))
  let n ← natIn? base ((markOf base).elim cs (dropMark · cs))
  return if negative then -(n : Int) else n

/-- The integer that a text spells: with the mark of its base, as octal digits behind a zero, in parts
of base sixty, or in decimal digits. -/
def readInt? (cs : List Char) : Option Int := do
  let (negative, cs) := signed (unspaced cs)
  let n ← match cs with
    | [] => none
    | ['0'] => some 0
    | '0' :: 'b' :: ds => intIn? 2 ds
    | '0' :: 'x' :: ds => intIn? 16 ds
    | '0' :: _ => intIn? 8 cs
    | _ => do
      let parts ← (Text.splitChars ':' cs).mapM (intIn? 10)
      some (parts.foldl (fun n part => 60 * n + part) 0)
  return if negative then -n else n

/-! ## Floats -/

/-- The exponent at the end of a number. -/
def exponent? : List Char → Option Int
  | [] => some 0
  | e :: cs =>
    if e == 'e' then
      let (negative, ds) := signed cs
      if ds.isEmpty || !ds.all isDigit then none
      else some (if negative then -(natOfDigits ds : Int) else natOfDigits ds)
    else none

/-- The float that a text in lower case without a sign spells. -/
def magnitude? (negative : Bool) (cs : List Char) : Option Binary64 :=
  if ["inf", "infinity"].contains (String.ofList cs) then some (.infinite negative)
  else if String.ofList cs == "nan" then some .nan
  else
    let whole := cs.takeWhile isDigit
    let (fraction, cs) := match cs.dropWhile isDigit with
      | '.' :: cs => (cs.takeWhile isDigit, cs.dropWhile isDigit)
      | cs => ([], cs)
    if whole.isEmpty && fraction.isEmpty then none
    else
      (exponent? cs).map fun e =>
        Binary64.ofDecimal negative (whole ++ fraction) (e - fraction.length)

/-- The float that a text in lower case spells. -/
def floatIn? (cs : List Char) : Option Binary64 :=
  let (negative, cs) := signed (Text.trimEnd (Text.trimStart cs))
  magnitude? negative cs

/-- The sum of parts in base sixty, the last part first, each step rounded; `weight` is what the next
part counts. -/
def sumOfParts (total : Rat) (weight : Nat) : List Rat → Rat
  | [] => total
  | part :: parts =>
    let term := (Binary64.ofRat (part * weight)).toRat?.getD 0
    sumOfParts ((Binary64.ofRat (total + term)).toRat?.getD 0) (60 * weight) parts

/-- The float that a text spells: with a point, or in parts of base sixty, or one of the words for
infinity and for what is no number. -/
def readFloat? (cs : List Char) : Option Binary64 := do
  let (negative, cs) := signed (Text.lower (String.ofList (unspaced cs))).toList
  match cs with
  | [] => none
  | ['.', 'i', 'n', 'f'] => return .infinite negative
  | ['.', 'n', 'a', 'n'] => return .nan
  | _ =>
    match Text.splitChars ':' cs with
    | [_] =>
      let x ← floatIn? cs
      return if negative then x.neg else x
    | parts =>
      let parts ← parts.mapM fun part => (floatIn? part).bind Binary64.toRat?
      let q := sumOfParts 0 1 parts.reverse
      return Binary64.ofRatio negative q.num.natAbs q.den

/-! ## Bytes -/

/-- The six bits that a character of base 64 stands for. -/
def sixBits? (c : Char) : Option Nat :=
  if 'A' ≤ c && c ≤ 'Z' then some (c.toNat - 'A'.toNat)
  else if 'a' ≤ c && c ≤ 'z' then some (c.toNat - 'a'.toNat + 26)
  else if isDigit c then some (digitValue c + 52)
  else if c == '+' then some 62
  else if c == '/' then some 63
  else none

/-- The bytes that a text in base 64 stands for. `place` is the number of characters read of a group
of four, `left` their bits not yet part of a byte, and `pads` the number of padding characters since.
Characters outside of the alphabet do not count. -/
def bytesFrom? (place left pads : Nat) : List Char → Option (List UInt8)
  | [] => if place == 0 then some [] else none
  | c :: cs =>
    if c == '=' then
      if 2 ≤ place then
        if 4 ≤ place + pads + 1 then some [] else bytesFrom? place left (pads + 1) cs
      else bytesFrom? place left pads cs
    else
      match sixBits? c with
      | none => bytesFrom? place left pads cs
      | some bits =>
        match place with
        | 0 => bytesFrom? 1 bits 0 cs
        | 1 => (bytesFrom? 2 (bits % 16) 0 cs).map (UInt8.ofNat (left * 4 + bits / 16) :: ·)
        | 2 => (bytesFrom? 3 (bits % 4) 0 cs).map (UInt8.ofNat (left * 16 + bits / 4) :: ·)
        | _ => (bytesFrom? 0 0 0 cs).map (UInt8.ofNat (left * 64 + bits) :: ·)

/-! ## Scalars -/

/-- The truth value that a word stands for, in any case. -/
def readBool? (text : String) : Option Bool :=
  let word := Text.lower text
  if ["yes", "true", "on"].contains word then some true
  else if ["no", "false", "off"].contains word then some false
  else none

/-- The date or the moment that a text stands for, which has to be real. -/
def readTimestamp (cs : List Char) : Except Fault Scalar :=
  match Timestamp.read? cs with
  | none => .error .wrongShape
  | some t =>
    match t.time with
    | none => if t.date.isReal then .ok (.date t.date) else .error .badValue
    | some time => if (t.moment time).isReal then .ok (.moment (t.moment time)) else .error .badValue

/-- A value that is there, or else a fault. -/
def orFault (fault : Fault) (found : Option Scalar) : Except Fault Scalar :=
  match found with
  | some s => .ok s
  | none => .error fault

/-- The scalar that a text with a tag stands for. -/
def readScalar (tag : Tag) (text : String) : Except Fault Scalar :=
  let cs := text.toList
  match tag with
  | .null => .ok .null
  | .bool => orFault .badValue ((readBool? text).map .bool)
  | .int => orFault .badValue ((readInt? cs).map .int)
  | .float => orFault .badValue ((readFloat? cs).map .float)
  | .timestamp => readTimestamp cs
  | .binary =>
    orFault .malformedYaml
      (if cs.all (·.toNat < 128) then (bytesFrom? 0 0 0 cs).map .bytes else none)
  | .str => .ok (.str text)
  | .seq | .map | .merge | .value | .other => .error .malformedYaml

end ApiContract.Yaml
