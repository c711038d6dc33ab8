/-!
# A place in a text

A cursor holds the characters that are left and where the first of them stands. Lines end at a line
feed, a carriage return, a next-line character, or a separator of lines or paragraphs.
-/

namespace ApiContract.Yaml

/-- A place in a text. -/
structure Cursor where
  rest : List Char
  index : Nat := 0
  line : Nat := 0
  column : Nat := 0

/-- Does the character end a line? -/
def isBreak (c : Char) : Bool :=
  c == '\n' || c == '\r' || c.toNat == 0x85 || c.toNat == 0x2028 || c.toNat == 0x2029

/-- Is there no character, or one that ends a line? -/
def endsLine : Option Char → Bool
  | none => true
  | some c => isBreak c

/-- Is there no character, a space, or one that ends a line? -/
def endsWord (c : Option Char) : Bool := endsLine c || c == some ' '

/-- Is there no character, a space, a tab, or one that ends a line? -/
def endsToken (c : Option Char) : Bool := endsWord c || c == some '\t'

namespace Cursor

/-- The character at a distance, if the text reaches that far. -/
def peek (c : Cursor) (n : Nat := 0) : Option Char := c.rest[n]?

/-- The place behind the next character. -/
def step (c : Cursor) : Cursor :=
  match c.rest with
  | [] => c
  | ch :: rest =>
    let newLine := isBreak ch && !(ch == '\r' && rest.head? == some '\n')
    { rest := rest, index := c.index + 1,
      line := if newLine then c.line + 1 else c.line,
      column := if newLine then 0
        else if ch.toNat == 0xFEFF then c.column else c.column + 1 }

/-- The place behind the next `n` characters. -/
def advance : Nat → Cursor → Cursor
  | 0, c => c
  | n + 1, c => advance n c.step

/-- The number of characters ahead that satisfy a condition. -/
def count (c : Cursor) (ok : Char → Bool) : Nat := (c.rest.takeWhile ok).length

/-- The place behind the characters that satisfy a condition. -/
def skip (c : Cursor) (ok : Char → Bool) : Cursor := c.advance (c.count ok)

/-- The next `n` characters. -/
def take (c : Cursor) (n : Nat) : List Char := c.rest.take n

/-- The place behind a line end, and the line end as it counts in a text; no characters where no line
ends. -/
def lineBreak (c : Cursor) : List Char × Cursor :=
  match c.rest with
  | '\r' :: '\n' :: _ => (['\n'], c.advance 2)
  | ch :: _ =>
    if ch == '\n' || ch == '\r' || ch.toNat == 0x85 then (['\n'], c.step)
    else if isBreak ch then ([ch], c.step)
    else ([], c)
  | [] => ([], c)

/-- Is there a line of three such characters, which separates documents? -/
def atMarker (c : Cursor) (marker : Char) : Bool :=
  c.take 3 == [marker, marker, marker] && endsToken (c.peek 3)

/-- Does a document start or end here? -/
def atSeparator (c : Cursor) : Bool := c.atMarker '-' || c.atMarker '.'

/-- The place behind spaces and a comment, which has to be the end of a line. -/
def restOfLine? (c : Cursor) : Option Cursor :=
  let c := c.skip (· == ' ')
  let c := if c.peek == some '#' then c.skip (!isBreak ·) else c
  if endsLine c.peek then some c.lineBreak.2 else none

end Cursor

end ApiContract.Yaml
