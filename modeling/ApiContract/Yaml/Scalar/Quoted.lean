import ApiContract.Number.Decimal
import ApiContract.Yaml.Cursor

/-!
# Quoted scalars

A text in single quotes has no escapes but the doubled quote; a text in double quotes has escapes.
In both, a line end becomes a space, and further line ends are kept.
-/

namespace ApiContract.Yaml

/-- The character that an escaped character stands for. -/
def escape? (c : Char) : Option Char :=
  match c with
  | '0' => some (Char.ofNat 0)
  | 'a' => some (Char.ofNat 7)
  | 'b' => some (Char.ofNat 8)
  | 't' | '\t' => some '\t'
  | 'n' => some '\n'
  | 'v' => some (Char.ofNat 11)
  | 'f' => some (Char.ofNat 12)
  | 'r' => some '\r'
  | 'e' => some (Char.ofNat 27)
  | ' ' => some ' '
  | '"' => some '"'
  | '\\' => some '\\'
  | '/' => some '/'
  | 'N' => some (Char.ofNat 0x85)
  | '_' => some (Char.ofNat 0xA0)
  | 'L' => some (Char.ofNat 0x2028)
  | 'P' => some (Char.ofNat 0x2029)
  | _ => none

/-- The number of hexadecimal digits behind an escaped letter. -/
def escapeWidth? (c : Char) : Option Nat :=
  match c with
  | 'x' => some 2
  | 'u' => some 4
  | 'U' => some 8
  | _ => none

/-- The character by number behind an escaped letter. -/
def readNumber? (width : Nat) (c : Cursor) : Option (Char × Cursor) :=
  let digits := c.take width
  let n := natOfHexDigits digits
  if digits.length == width && digits.all isHexDigit && n.isValidChar then
    some (Char.ofNat n, c.advance width)
  else none

/-- The line ends of empty lines inside quotes; a document must not start or end there. -/
def quotedBreaks? : Nat → List Char → Cursor → Option (List Char × Cursor)
  | 0, _, _ => none
  | fuel + 1, breaks, c =>
    if c.atSeparator then none
    else
      let c := c.skip fun ch => ch == ' ' || ch == '\t'
      if c.peek.any isBreak then
        let (b, c) := c.lineBreak
        quotedBreaks? fuel (breaks ++ b) c
      else some (breaks, c)

/-- What spaces and line ends between quotes amount to. -/
def quotedSpaces? (c : Cursor) : Option (List Char × Cursor) :=
  let n := c.count fun ch => ch == ' ' || ch == '\t'
  let spaces := c.take n
  let c := c.advance n
  match c.peek with
  | none => none
  | some ch =>
    if isBreak ch then do
      let (b, c) := c.lineBreak
      let (breaks, c) ← quotedBreaks? (c.rest.length + 1) [] c
      let glue := if b != ['\n'] then b else if breaks.isEmpty then [' '] else []
      return (glue ++ breaks, c)
    else some (spaces, c)

/-- Is the character text both in single and in double quotes? -/
def isQuotedText (c : Char) : Bool :=
  !(c == '\'' || c == '"' || c == '\\' || c == ' ' || c == '\t' || isBreak c)

/-- The characters up to the closing quote, which is read too. -/
def quotedText? (double : Bool) : Nat → List Char → Cursor → Option (List Char × Cursor)
  | 0, _, _ => none
  | fuel + 1, text, c =>
    match c.peek with
    | none => none
    | some ch =>
      if isQuotedText ch then quotedText? double fuel (text ++ [ch]) c.step
      else if !double && ch == '\'' then
        if c.peek 1 == some '\'' then quotedText? double fuel (text ++ ['\'']) (c.advance 2)
        else some (text, c.step)
      else if double && ch == '"' then some (text, c.step)
      else if ch == '\'' || ch == '"' then quotedText? double fuel (text ++ [ch]) c.step
      else if ch == '\\' then
        if !double then quotedText? double fuel (text ++ [ch]) c.step
        else
          let c := c.step
          match c.peek with
          | none => none
          | some e =>
            if let some d := escape? e then quotedText? double fuel (text ++ [d]) c.step
            else if let some width := escapeWidth? e then do
              let (d, c) ← readNumber? width c.step
              quotedText? double fuel (text ++ [d]) c
            else if isBreak e then do
              let (breaks, c) ← quotedBreaks? (c.rest.length + 1) [] c.lineBreak.2
              quotedText? double fuel (text ++ breaks) c
            else none
      else do
        let (spaces, c) ← quotedSpaces? c
        quotedText? double fuel (text ++ spaces) c

/-- The quoted scalar whose opening quote stands at the cursor. -/
def readQuoted? (double : Bool) (c : Cursor) : Option (List Char × Cursor) :=
  quotedText? double (c.rest.length + 1) [] c.step

end ApiContract.Yaml
