import ApiContract.Yaml.Cursor

/-!
# Block scalars

A block scalar is a text on lines of its own, indented deeper than what holds it. A literal one keeps
its line ends; in a folded one a single line end between lines of text becomes a space. Its header
says how many line ends are kept at the end, and may give the indentation.
-/

namespace ApiContract.Yaml

/-- What the header of a block scalar says: whether all line ends at the end are kept or none, one
being kept when it says nothing, and how much deeper the text is indented. -/
structure BlockHeader where
  keep : Option Bool := none
  increment : Option Nat := none

namespace BlockHeader

/-- Read the sign that says which line ends are kept. -/
def readKeep (c : Cursor) : Option Bool × Cursor :=
  match c.peek with
  | some '+' => (some true, c.step)
  | some '-' => (some false, c.step)
  | _ => (none, c)

/-- Read the digit that gives the indentation, which must not be zero. -/
def readIncrement? (c : Cursor) : Option (Option Nat × Cursor) :=
  match c.peek with
  | some d =>
    if '0' ≤ d && d ≤ '9' then
      if d == '0' then none else some (some (d.toNat - '0'.toNat), c.step)
    else some (none, c)
  | none => some (none, c)

/-- Read a header, whose two parts may come in either order. -/
def read? (c : Cursor) : Option (BlockHeader × Cursor) := do
  let (keep, c) := readKeep c
  let (increment, c) ← readIncrement? c
  let (keep, c) := if keep.isNone && increment.isSome then readKeep c else (keep, c)
  if endsWord c.peek then return (⟨keep, increment⟩, ← c.restOfLine?) else none

end BlockHeader

/-- The line ends before the first line of text, and the greatest indentation among them. -/
def leadingBreaks : Nat → List Char → Nat → Cursor → List Char × Nat × Cursor
  | 0, breaks, deepest, c => (breaks, deepest, c)
  | fuel + 1, breaks, deepest, c =>
    match c.peek with
    | some ch =>
      if ch == ' ' then leadingBreaks fuel breaks (max deepest c.step.column) c.step
      else if isBreak ch then
        let (b, c) := c.lineBreak
        leadingBreaks fuel (breaks ++ b) deepest c
      else (breaks, deepest, c)
    | none => (breaks, deepest, c)

/-- The place behind at most as many spaces as the indentation has. -/
def skipIndent (indent : Nat) (c : Cursor) : Cursor :=
  c.advance (min (indent - c.column) (c.count (· == ' ')))

/-- The line ends of empty lines, and the place at the indentation of the next line. -/
def blankLines (indent : Nat) : Nat → List Char → Cursor → List Char × Cursor
  | 0, breaks, c => (breaks, c)
  | fuel + 1, breaks, c =>
    let c := skipIndent indent c
    if c.peek.any isBreak then
      let (b, c) := c.lineBreak
      blankLines indent fuel (breaks ++ b) c
    else (breaks, c)

/-- The lines of a block scalar. `text` is what has been read, `breaks` the line ends before the
current line. -/
def blockLines (folded : Bool) (keep : Option Bool) (indent : Nat) :
    Nat → List Char → List Char → Cursor → List Char × Cursor
  | 0, text, _, c => (text, c)
  | fuel + 1, text, breaks, c =>
    if c.column == indent && c.peek.isSome then
      let plain := c.peek != some ' ' && c.peek != some '\t'
      let n := c.count (!isBreak ·)
      let text := text ++ breaks ++ c.take n
      let (b, c) := (c.advance n).lineBreak
      let (breaks, c) := blankLines indent (c.rest.length + 1) [] c
      if c.column == indent && c.peek.isSome then
        let joins := folded && b == ['\n'] && plain && c.peek != some ' ' && c.peek != some '\t'
        let glue := if joins then (if breaks.isEmpty then [' '] else []) else b
        blockLines folded keep indent fuel (text ++ glue) breaks c
      else
        (text ++ (if keep == some false then [] else b) ++ (if keep == some true then breaks else []), c)
    else (text ++ (if keep == some true then breaks else []), c)

/-- The block scalar whose mark stands at the cursor, inside something with the given indentation. -/
def readBlock? (folded : Bool) (parent : Int) (c : Cursor) : Option (List Char × Cursor) := do
  let (header, c) ← BlockHeader.read? c.step
  let least := (max (parent + 1) 1).toNat
  let (breaks, indent, c) := match header.increment with
    | none =>
      let (breaks, deepest, c) := leadingBreaks (c.rest.length + 1) [] 0 c
      (breaks, max least deepest, c)
    | some n =>
      let indent := least + n - 1
      let (breaks, c) := blankLines indent (c.rest.length + 1) [] c
      (breaks, indent, c)
  return blockLines folded header.keep indent (c.rest.length + 1) [] breaks c

end ApiContract.Yaml
