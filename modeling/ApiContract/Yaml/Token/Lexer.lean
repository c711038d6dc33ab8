import ApiContract.Yaml.Scalar.Block
import ApiContract.Yaml.Scalar.Plain
import ApiContract.Yaml.Scalar.Quoted
import ApiContract.Yaml.Token.Basic

/-!
# From text to tokens

Tokens are found from left to right. A key without a mark of its own is recognised only at the colon
behind it: each place where such a key may start is remembered, and the marks are then put in there.
Such a key lies on one line and is at most 1024 characters long.
-/

namespace ApiContract.Yaml

/-- A place where a key may have started. -/
structure KeyStart where
  /-- The number of tokens before it. -/
  tokenIndex : Nat
  /-- Nothing but a key can stand there. -/
  required : Bool
  index : Nat
  line : Nat
  column : Nat

/-- The state of the search for tokens. -/
structure Lexer where
  cursor : Cursor
  tokens : Array Token := #[]
  /-- The number of open brackets. -/
  flowLevel : Nat := 0
  indent : Int := -1
  /-- The indentations around the current one. -/
  outer : List Int := []
  keyAllowed : Bool := true
  /-- The places where a key may have started, by the number of brackets open there. -/
  keyStarts : List (Nat × KeyStart) := []
  finished : Bool := false

namespace Lexer

/-- Add a token. -/
def emit (t : Token) (s : Lexer) : Lexer := { s with tokens := s.tokens.push t }

/-- Move past the next `n` characters. -/
def advance (n : Nat) (s : Lexer) : Lexer := { s with cursor := s.cursor.advance n }

/-- Allow a key to start behind what is read now, or forbid it. -/
def allowKey (allowed : Bool) (s : Lexer) : Lexer := { s with keyAllowed := allowed }

/-- Forget the places where a key can no longer have started; a required key must not be among
them. -/
def dropStale? (s : Lexer) : Option Lexer :=
  let stale (k : KeyStart) : Bool := k.line != s.cursor.line || 1024 < s.cursor.index - k.index
  if s.keyStarts.any fun p => stale p.2 && p.2.required then none
  else some { s with keyStarts := s.keyStarts.filter fun p => !stale p.2 }

/-- Forget the place of a key among the brackets that are open now. -/
def forgetKey? (s : Lexer) : Option Lexer :=
  match s.keyStarts.lookup s.flowLevel with
  | some k =>
    if k.required then none
    else some { s with keyStarts := s.keyStarts.filter (·.1 != s.flowLevel) }
  | none => some s

/-- Remember that a key may start here. -/
def saveKey? (s : Lexer) : Option Lexer :=
  if s.keyAllowed then do
    let required := s.flowLevel == 0 && s.indent == (s.cursor.column : Int)
    let s ← s.forgetKey?
    let k : KeyStart := ⟨s.tokens.size, required, s.cursor.index, s.cursor.line, s.cursor.column⟩
    return { s with keyStarts := (s.flowLevel, k) :: s.keyStarts }
  else some s

/-- Close the blocks that are indented deeper than the column. -/
def unwind (column : Int) (s : Lexer) : Lexer :=
  if s.flowLevel != 0 then s
  else
    -- `outer` shrinks with every block that is closed, and its last entry is the margin.
    let rec go (s : Lexer) : List Int → Lexer
      | [] => if column < s.indent then { s with indent := -1 }.emit .blockEnd else s
      | i :: outer =>
        if column < s.indent then go ({ s with indent := i, outer := outer }.emit .blockEnd) outer
        else s
    go s s.outer

/-- Open a block at the column, if it is deeper than the current one. -/
def openBlock (column : Int) (s : Lexer) : Bool × Lexer :=
  if s.indent < column then (true, { s with outer := s.indent :: s.outer, indent := column })
  else (false, s)

/-- Skip blanks, comments and line ends; behind a line end a key may start. -/
def toNextToken : Nat → Lexer → Lexer
  | 0, s => s
  | fuel + 1, s =>
    let c := s.cursor.skip (· == ' ')
    let c := if c.peek == some '#' then c.skip (!isBreak ·) else c
    -- Between brackets a line end says nothing about keys.
    match c.lineBreak with
    | ([], _) => { s with cursor := c }
    | (_, c) =>
      toNextToken fuel { s with cursor := c, keyAllowed := s.keyAllowed || s.flowLevel == 0 }

/-! ## Names, tags and directives -/

/-- Is the character allowed in the name of an anchor or a tag handle? -/
def isNameChar (c : Char) : Bool := c.isAlphanum || c == '-' || c == '_'

/-- A name, and the place behind it. -/
def readName? (c : Cursor) : Option (String × Cursor) :=
  let n := c.count isNameChar
  if n == 0 then none else some (String.ofList (c.take n), c.advance n)

/-- Is the character allowed in a tag, a percent sign aside? -/
def isTagChar (c : Char) : Bool := c.isAlphanum || "-;/?:@&=+$,_.!~*'()[]".toList.contains c

/-- The bytes of percent-encoded characters ahead. -/
def escapedBytes : Nat → Cursor → Option (List UInt8 × Cursor)
  | 0, c => some ([], c)
  | fuel + 1, c =>
    match c.take 3 with
    | ['%', a, b] =>
      if isHexDigit a && isHexDigit b then do
        let (more, rest) ← escapedBytes fuel (c.advance 3)
        return (UInt8.ofNat (natOfHexDigits [a, b]) :: more, rest)
      else none
    | '%' :: _ => none
    | _ => some ([], c)

/-- The characters of a tag, and the place behind them. -/
def readTagChars? : Nat → List Char → Cursor → Option (List Char × Cursor)
  | 0, done, c => some (done, c)
  | fuel + 1, done, c =>
    match c.peek with
    | some ch =>
      if ch == '%' then do
        let (bytes, c) ← escapedBytes c.rest.length c
        let text ← String.fromUTF8? ⟨bytes.toArray⟩
        readTagChars? fuel (done ++ text.toList) c
      else if isTagChar ch then readTagChars? fuel (done ++ [ch]) c.step
      else some (done, c)
    | none => some (done, c)

/-- The text of a tag, which must not be empty. -/
def readTagText? (c : Cursor) : Option (String × Cursor) := do
  let (cs, rest) ← readTagChars? (c.rest.length + 1) [] c
  if cs.isEmpty then none else return (String.ofList cs, rest)

/-- A tag handle: an exclamation mark, or a name between two. -/
def readHandle? (c : Cursor) : Option (String × Cursor) :=
  if c.peek != some '!' then none
  else if c.peek 1 == some ' ' then some ("!", c.step)
  else
    let n := c.step.count isNameChar
    if c.peek (n + 1) == some '!' then some (String.ofList (c.take (n + 2)), c.advance (n + 2))
    else none

/-- The tag at the cursor. -/
def readTag? (c : Cursor) : Option (Token × Cursor) := do
  let (token, c) ←
    if c.peek 1 == some '<' then do
      let (suffix, c) ← readTagText? (c.advance 2)
      if c.peek == some '>' then pure (Token.tag none suffix, c.step) else none
    else if endsToken (c.peek 1) then pure (Token.tag none "!", c.step)
    else do
      let word := (c.step.rest.takeWhile fun ch => !endsWord (some ch))
      if word.contains '!' then
        let (handle, c) ← readHandle? c
        let (suffix, c) ← readTagText? c
        pure (Token.tag (some handle) suffix, c)
      else
        let (suffix, c) ← readTagText? c.step
        pure (Token.tag (some "!") suffix, c)
  if endsWord c.peek then return (token, c) else none

/-- A number, and the place behind it. -/
def readDigits? (c : Cursor) : Option (Nat × Cursor) :=
  let n := c.count isDigit
  if n == 0 then none else some (natOfDigits (c.take n), c.advance n)

/-- The directive at the cursor, with the line that it is on. -/
def readDirective? (c : Cursor) : Option (Token × Cursor) := do
  let (name, c) ← readName? c.step
  if !endsWord c.peek then none
  let (token, c) ←
    if name == "YAML" then do
      let (major, c) ← readDigits? (c.skip (· == ' '))
      if c.peek != some '.' then none
      let (_, c) ← readDigits? c.step
      if !endsWord c.peek then none
      pure (Token.versionDirective major, c)
    else if name == "TAG" then do
      let (handle, c) ← readHandle? (c.skip (· == ' '))
      if c.peek != some ' ' then none
      let (target, c) ← readTagText? (c.skip (· == ' '))
      if !endsWord c.peek then none
      pure (Token.tagDirective handle target, c)
    else pure (Token.otherDirective, c.skip (!isBreak ·))
  return (token, ← c.restOfLine?)

/-- The name behind the mark of an anchor or an alias. -/
def readAnchorName? (c : Cursor) : Option (String × Cursor) := do
  let (name, c) ← readName? c.step
  if endsToken c.peek || c.peek.any fun ch => "?:,]\x7d%@`".toList.contains ch then
    return (name, c)
  else none

/-! ## Fetching tokens -/

/-- The end of the text closes all blocks. -/
def fetchEnd? (s : Lexer) : Option Lexer := do
  let s ← (s.unwind (-1)).forgetKey?
  return { s with finished := true, keyAllowed := false, keyStarts := [] }

/-- A directive or a separator of documents. -/
def fetchTopLevel? (s : Lexer) (read : Cursor → Option (Token × Cursor)) : Option Lexer := do
  let s ← (s.unwind (-1)).forgetKey?
  let (token, c) ← read s.cursor
  return ({ s with cursor := c, keyAllowed := false }).emit token

/-- An opening bracket. -/
def fetchOpening? (s : Lexer) (token : Token) : Option Lexer := do
  let s ← s.saveKey?
  return (({ s with flowLevel := s.flowLevel + 1 }.allowKey true).advance 1).emit token

/-- A closing bracket. -/
def fetchClosing? (s : Lexer) (token : Token) : Option Lexer := do
  let s ← s.forgetKey?
  return (({ s with flowLevel := s.flowLevel - 1 }.allowKey false).advance 1).emit token

/-- A comma between brackets. -/
def fetchFlowEntry? (s : Lexer) : Option Lexer := do
  let s ← (s.allowKey true).forgetKey?
  return (s.advance 1).emit .flowEntry

/-- Open a block for an entry or a key that has a mark of its own. -/
def startBlock? (s : Lexer) (start : Token) : Option Lexer :=
  if s.flowLevel != 0 then some s
  else if !s.keyAllowed then none
  else
    match s.openBlock s.cursor.column with
    | (true, s) => some (s.emit start)
    | (false, s) => some s

/-- The dash of a list entry. -/
def fetchBlockEntry? (s : Lexer) : Option Lexer := do
  let s ← s.startBlock? .blockSequenceStart
  let s ← (s.allowKey true).forgetKey?
  return (s.advance 1).emit .blockEntry

/-- The question mark of a key. -/
def fetchKey? (s : Lexer) : Option Lexer := do
  let s ← s.startBlock? .blockMappingStart
  let s ← (s.allowKey (s.flowLevel == 0)).forgetKey?
  return (s.advance 1).emit .key

/-- The colon of a value. The marks of the key before it are put in where the key started. -/
def fetchValue? (s : Lexer) : Option Lexer := do
  let s ←
    match s.keyStarts.lookup s.flowLevel with
    | some k =>
      let s := { s with keyStarts := s.keyStarts.filter (·.1 != s.flowLevel) }
      let before := s.tokens.extract 0 k.tokenIndex
      let behind := s.tokens.extract k.tokenIndex s.tokens.size
      -- The first key of a block also opens the block, at the column where the key started.
      let (opens, s) := if s.flowLevel == 0 then s.openBlock k.column else (false, s)
      let marks : Array Token := if opens then #[.blockMappingStart, .key] else #[.key]
      pure { s with tokens := before ++ marks ++ behind, keyAllowed := false }
    | none => do
      let s ← s.startBlock? .blockMappingStart
      (s.allowKey (s.flowLevel == 0)).forgetKey?
  return (s.advance 1).emit .value

/-- A token that may be the start of a key and is read in one go. -/
def fetchAtom? (s : Lexer) (read : Cursor → Option (Token × Cursor)) : Option Lexer := do
  let s ← s.saveKey?
  let (token, c) ← read s.cursor
  return ({ s with cursor := c, keyAllowed := false }).emit token

/-- A block scalar, behind which a key may start. -/
def fetchBlockScalar? (s : Lexer) (folded : Bool) : Option Lexer := do
  let s ← (s.allowKey true).forgetKey?
  let (text, c) ← readBlock? folded s.indent s.cursor
  return ({ s with cursor := c }).emit (.scalar (String.ofList text) false)

/-- A plain scalar; a key may start behind it where it ends a line. -/
def fetchPlain? (s : Lexer) : Option Lexer := do
  let s ← s.saveKey?
  let (text, crossed, c) := readPlain (s.flowLevel != 0) s.indent s.cursor
  return ({ s with cursor := c, keyAllowed := crossed }).emit (.scalar (String.ofList text) true)

/-- Can a plain scalar start with the character, given the one behind it? -/
def startsPlain (flow : Bool) (c : Char) (next : Option Char) : Bool :=
  !(endsToken (some c) || "-?:,[]\x7b\x7d#&*!|>'\"%@`".toList.contains c) ||
    (!endsToken next && (c == '-' || (!flow && (c == '?' || c == ':'))))

/-- A separator of documents as the token that it is. -/
def marker (token : Token) (c : Cursor) : Option (Token × Cursor) := some (token, c.advance 3)

/-- A quoted scalar as a token. -/
def quotedToken? (double : Bool) (c : Cursor) : Option (Token × Cursor) := do
  let (text, c) ← readQuoted? double c
  return (.scalar (String.ofList text) false, c)

/-- Find the token at the cursor, which starts with the given character. -/
def fetchAt? (s : Lexer) (ch : Char) : Option Lexer :=
  let c := s.cursor
  let flow := s.flowLevel != 0
  let atStart := c.column == 0
  let setOff := flow || endsToken (c.peek 1)
  if ch == '%' && atStart then s.fetchTopLevel? readDirective?
  else if ch == '-' && atStart && c.atMarker '-' then s.fetchTopLevel? (marker .documentStart)
  else if ch == '.' && atStart && c.atMarker '.' then s.fetchTopLevel? (marker .documentEnd)
  else if ch == '[' then s.fetchOpening? .flowSequenceStart
  else if ch == '\x7b' then s.fetchOpening? .flowMappingStart
  else if ch == ']' then s.fetchClosing? .flowSequenceEnd
  else if ch == '\x7d' then s.fetchClosing? .flowMappingEnd
  else if ch == ',' then s.fetchFlowEntry?
  else if ch == '-' && endsToken (c.peek 1) then s.fetchBlockEntry?
  else if ch == '?' && setOff then s.fetchKey?
  else if ch == ':' && setOff then s.fetchValue?
  else if ch == '*' then s.fetchAtom? fun c => (readAnchorName? c).map fun (n, c) => (.alias n, c)
  else if ch == '&' then s.fetchAtom? fun c => (readAnchorName? c).map fun (n, c) => (.anchor n, c)
  else if ch == '!' then s.fetchAtom? readTag?
  else if ch == '|' && !flow then s.fetchBlockScalar? false
  else if ch == '>' && !flow then s.fetchBlockScalar? true
  else if ch == '\'' then s.fetchAtom? (quotedToken? false)
  else if ch == '"' then s.fetchAtom? (quotedToken? true)
  else if startsPlain flow ch (c.peek 1) then s.fetchPlain?
  else none

/-- Find the next token. -/
def fetch? (s : Lexer) : Option Lexer := do
  let s ← (s.toNextToken (s.cursor.rest.length + 1)).dropStale?
  let s := s.unwind s.cursor.column
  match s.cursor.peek with
  | none => s.fetchEnd?
  | some ch => s.fetchAt? ch

/-- Find tokens to the end of the text. Each takes a character at least. -/
def run? : Nat → Lexer → Option (List Token)
  | 0, _ => none
  | fuel + 1, s => do
    let s ← s.fetch?
    if s.finished then return s.tokens.toList else run? fuel s

end Lexer

/-- Is the character allowed in a YAML text? -/
def isAllowed (c : Char) : Bool :=
  let n := c.toNat
  n == 9 || n == 10 || n == 13 || (0x20 ≤ n && n ≤ 0x7E) || n == 0x85 || (0xA0 ≤ n && n ≤ 0xFFFD) ||
    0x10000 ≤ n

/-- The tokens of a text; nothing when the text is not well-formed. A mark of the byte order at the
start does not count. -/
def tokens? (text : String) : Option (List Token) :=
  let cs := text.toList
  if cs.all isAllowed then
    let cursor : Cursor := { rest := cs }
    let cursor := if cs.head? == some (Char.ofNat 0xFEFF) then cursor.step else cursor
    Lexer.run? (cs.length + 2) { cursor := cursor }
  else none

end ApiContract.Yaml
