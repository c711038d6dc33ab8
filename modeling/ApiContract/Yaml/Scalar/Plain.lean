import ApiContract.Yaml.Cursor

/-!
# Plain scalars

A plain scalar is a text without quotes. It ends before a colon or a comment that is set off by a
blank, inside brackets also before the marks of their syntax, and on the next line where that is not
indented deep enough.
-/

namespace ApiContract.Yaml

/-- Is the character a mark inside brackets? -/
def isFlowMark (c : Char) : Bool :=
  c == ',' || c == '[' || c == ']' || c == '\x7b' || c == '\x7d'

/-- The number of characters ahead that belong to one word of a plain scalar. -/
def plainLength (flow : Bool) : List Char → Nat
  | [] => 0
  | c :: rest =>
    if endsToken (some c) then 0
    else if c == ':' && (endsToken rest.head? || (flow && rest.head?.any isFlowMark)) then 0
    else if flow && (c == '?' || isFlowMark c) then 0
    else plainLength flow rest + 1

/-- The line ends of empty lines between the lines of a plain scalar; nothing where a document starts
or ends. -/
def plainBreaks? : Nat → List Char → Cursor → Option (List Char) × Cursor
  | 0, breaks, c => (some breaks, c)
  | fuel + 1, breaks, c =>
    match c.peek with
    | some ch =>
      if ch == ' ' then plainBreaks? fuel breaks c.step
      else if isBreak ch then
        let (b, c) := c.lineBreak
        if c.atSeparator then (none, c) else plainBreaks? fuel (breaks ++ b) c
      else (some breaks, c)
    | none => (some breaks, c)

/-- What lies between two words of a plain scalar. -/
structure PlainGap where
  /-- What the gap amounts to as text. -/
  text : List Char
  /-- A line ends in the gap. -/
  crossesLine : Bool
  cursor : Cursor

/-- Read what follows a word of a plain scalar. -/
def readGap (c : Cursor) : PlainGap :=
  let n := c.count (· == ' ')
  let spaces := c.take n
  let c := c.advance n
  if c.peek.any isBreak then
    let (b, c) := c.lineBreak
    if c.atSeparator then ⟨[], true, c⟩
    else
      match plainBreaks? (c.rest.length + 1) [] c with
      | (none, c) => ⟨[], true, c⟩
      | (some breaks, c) =>
        let glue := if b != ['\n'] then b else if breaks.isEmpty then [' '] else []
        ⟨glue ++ breaks, true, c⟩
  else ⟨spaces, false, c⟩

/-- The words of a plain scalar. `gap` is what lies before the next word, and `crossed` says whether
a line ends there. -/
def plainWords (flow : Bool) (indent : Int) :
    Nat → List Char → List Char → Bool → Cursor → List Char × Bool × Cursor
  | 0, text, _, crossed, c => (text, crossed, c)
  | fuel + 1, text, gap, crossed, c =>
    if c.peek == some '#' then (text, crossed, c)
    else
      let n := plainLength flow c.rest
      if n == 0 then (text, crossed, c)
      else
        let text := text ++ gap ++ c.take n
        let next := readGap (c.advance n)
        let c := next.cursor
        if next.text.isEmpty || c.peek == some '#' || (!flow && (c.column : Int) < indent) then
          (text, next.crossesLine, c)
        else plainWords flow indent fuel text next.text next.crossesLine c

/-- The plain scalar at the cursor, inside something with the given indentation, and whether a line
ends behind it. -/
def readPlain (flow : Bool) (parent : Int) (c : Cursor) : List Char × Bool × Cursor :=
  plainWords flow (parent + 1) (c.rest.length + 1) [] [] false c

end ApiContract.Yaml
