import ApiContract.Number.Decimal
import ApiContract.Pattern.Syntax
import ApiContract.Text.Word

/-!
# Reading patterns

A pattern is read from left to right. Whatever is not well-formed is refused: an unclosed group or
set, a loop with nothing to repeat, a reference to a group that is not there or not closed yet, an
escaped letter without a meaning, a set range in the wrong order, flags for the whole pattern
elsewhere than at its start, and a lookbehind whose width is not fixed.
-/

namespace ApiContract.Pattern

/-- The flags in force at a place in a pattern. -/
structure Flags where
  ignoreCase : Bool := false
  multiLine : Bool := false
  dotAll : Bool := false
  ascii : Bool := false
  verbose : Bool := false

/-- The casing that the flags ask for. -/
def Flags.casing (f : Flags) : Casing :=
  if !f.ignoreCase then .exact else if f.ascii then .ascii else .full

/-- What has been read so far: the characters that are left, the groups that were opened, with their
widths once they are closed, the names given to groups, the highest group that a conditional asks
about, which may come later, and inside a lookbehind the number of groups in front of it. -/
structure Progress where
  rest : List Char
  groups : Nat := 0
  widths : List (Nat × Width) := []
  names : List (String × Nat) := []
  awaited : Nat := 0
  behind : Option Nat := none

/-- A step of reading: it fails where the pattern is not well-formed. -/
abbrev Reader := StateT Progress Option

namespace Reader

/-- Give up: the text is no pattern. -/
def fail {α : Type} : Reader α := fun _ => none

/-- The next character, which stays where it is. -/
def peek : Reader (Option Char) := do return (← get).rest.head?

/-- The next character, which is taken. -/
def next : Reader (Option Char) := do
  match (← get).rest with
  | [] => return none
  | c :: rest => modify ({ · with rest := rest }); return some c

/-- Take `word` if it comes next. -/
def take (word : String) : Reader Bool := do
  let p ← get
  if word.toList.isPrefixOf p.rest then
    set { p with rest := p.rest.drop word.length }
    return true
  else return false

/-- Take the characters that satisfy a condition, at most `limit`. -/
def takeWhile (limit : Nat) (ok : Char → Bool) : Reader (List Char) := do
  let p ← get
  let taken := (p.rest.take limit).takeWhile ok
  set { p with rest := p.rest.drop taken.length }
  return taken

/-- The characters before `stop`, which is taken too. -/
def upTo (stop : Char) : Reader (List Char) := do
  let p ← get
  let taken := p.rest.takeWhile (· != stop)
  match p.rest.drop taken.length with
  | _ :: rest => set { p with rest := rest }; return taken
  | [] => fail

end Reader

open Reader

/-- Is the character an octal digit? -/
def isOctalDigit (c : Char) : Bool := '0' ≤ c && c ≤ '7'

/-- The number that octal digits spell. -/
def natOfOctalDigits (cs : List Char) : Nat := cs.foldl (fun n c => 8 * n + digitValue c) 0

/-- Is the character an ASCII letter? -/
def isLetter (c : Char) : Bool := c.isAlpha

/-- A character by its number in exactly `width` hexadecimal digits. -/
def readHex (width : Nat) : Reader Char := do
  let digits ← takeWhile width isHexDigit
  let n := natOfHexDigits digits
  if digits.length == width && n < 0x110000 then return Char.ofNat n else fail

/-- The predefined class, and whether its complement is meant, that an escaped letter names. -/
def category? : Char → Option (Category × Bool)
  | 'd' => some (.digit, false)
  | 'D' => some (.digit, true)
  | 's' => some (.space, false)
  | 'S' => some (.space, true)
  | 'w' => some (.word, false)
  | 'W' => some (.word, true)
  | _ => none

/-- The control character that an escaped letter stands for. -/
def control? : Char → Option Char
  | 'a' => some (Char.ofNat 7)
  | 'f' => some (Char.ofNat 12)
  | 'n' => some '\n'
  | 'r' => some '\r'
  | 't' => some '\t'
  | 'v' => some (Char.ofNat 11)
  | '\\' => some '\\'
  | _ => none

/-- The character by number that follows an escaped `x`, `u` or `U`. -/
def readNumbered : Char → Reader (Option Char)
  | 'x' => some <$> readHex 2
  | 'u' => some <$> readHex 4
  | 'U' => some <$> readHex 8
  | _ => pure none

/-- An escape inside a set, behind its backslash. -/
def readSetEscape (flags : Flags) : Reader SetItem := do
  match ← next with
  | none => fail
  | some c =>
    if c == 'b' then return .range (Char.ofNat 8) (Char.ofNat 8)
    else if let some d := control? c then return .range d d
    else if let some (kind, negated) := category? c then return .category kind flags.ascii negated
    else if let some d ← readNumbered c then return .range d d
    else if isOctalDigit c then
      let n := natOfOctalDigits (c :: (← takeWhile 2 isOctalDigit))
      if n ≤ 0o377 then return .range (Char.ofNat n) (Char.ofNat n) else fail
    else if isDigit c || isLetter c then fail
    else return .range c c

/-- One character or escape of a set, whose first character has been taken. -/
def readSetAtom (flags : Flags) (c : Char) : Reader SetItem :=
  if c == '\\' then readSetEscape flags else pure (.range c c)

/-- The members of a set up to its closing bracket; a bracket in first place is a member. -/
def readSetItems (flags : Flags) : Nat → Bool → Reader (List SetItem)
  | 0, _ => fail
  | fuel + 1, first => do
    match ← next with
    | none => fail
    | some c =>
      if c == ']' && !first then return []
      let low ← readSetAtom flags c
      if (← peek) == some '-' then
        let _ ← next
        match ← next with
        | none => fail
        | some d =>
          if d == ']' then return [low, .range '-' '-']
          let high ← readSetAtom flags d
          match low, high with
          | .range a _, .range b _ =>
            if b < a then fail else return .range a b :: (← readSetItems flags fuel false)
          | _, _ => fail
      else return low :: (← readSetItems flags fuel false)

/-- Is the group closed and, inside a lookbehind, in front of it? -/
def Progress.isSettled (p : Progress) (n : Nat) : Bool :=
  (p.widths.lookup n).isSome && p.behind.all (n ≤ ·)

/-- A reference to a group, which has to be settled. -/
def readReference (flags : Flags) (n : Nat) : Reader Node := do
  if (← get).isSettled n then return .sameAs n flags.casing else fail

/-- An escape outside of sets, behind its backslash. -/
def readEscape (flags : Flags) : Reader Node := do
  match ← next with
  | none => fail
  | some c =>
    let literal (d : Char) : Node := .literal d flags.casing
    if c == 'A' then return .anchor .textStart
    else if c == 'Z' then return .anchor .textEnd
    else if c == 'b' then return .anchor (.wordBoundary flags.ascii false)
    else if c == 'B' then return .anchor (.wordBoundary flags.ascii true)
    else if let some d := control? c then return literal d
    else if let some (kind, negated) := category? c then
      return .set ⟨false, [.category kind flags.ascii negated], flags.casing⟩
    else if let some d ← readNumbered c then return literal d
    else if c == '0' then
      return literal (Char.ofNat (natOfOctalDigits (← takeWhile 2 isOctalDigit)))
    else if isDigit c then
      let second ← takeWhile 1 isDigit
      let third ← if second.length == 1 && isOctalDigit c && second.all isOctalDigit then
        takeWhile 1 isOctalDigit else pure []
      if third.isEmpty then readReference flags (natOfDigits (c :: second))
      else
        let n := natOfOctalDigits (c :: second ++ third)
        if n ≤ 0o377 then return literal (Char.ofNat n) else fail
    else if isLetter c then fail
    else return literal c

/-- The bounds of a loop, behind its opening brace; nothing when the brace stands for itself. -/
def readBounds : Reader (Option (Nat × Option Nat)) := do
  let start ← get
  let low ← takeWhile start.rest.length isDigit
  let comma ← take ","
  let high ← if comma then takeWhile start.rest.length isDigit else pure low
  if start.rest.head? == some '\x7d' || !(← take "\x7d") then
    set start
    return none
  else
    let least := natOfDigits low
    if high.isEmpty then return some (least, none)
    else if natOfDigits high < least then fail
    else return some (least, some (natOfDigits high))

/-- The bounds of the loop that `c` opens, if it opens one. -/
def readLoop (c : Char) : Reader (Option (Nat × Option Nat)) := do
  match c with
  | '*' => return some (0, none)
  | '+' => return some (1, none)
  | '?' => return some (0, some 1)
  | '\x7b' => readBounds
  | _ => return none

/-- The mark behind a loop that says how it chooses. -/
def readLoopMode : Reader LoopMode := do
  if ← take "?" then return .lazy
  else if ← take "+" then return .possessive
  else return .greedy

/-- Can the node be repeated? Anchors and loops cannot. -/
def Node.repeatable : Node → Bool
  | .anchor _ => false
  | .loop .. => false
  | _ => true

/-- The nodes in sequence. -/
def Node.ofList : List Node → Node
  | [] => .empty
  | [n] => n
  | n :: rest => .seq n (Node.ofList rest)

/-- Is the text the name of a group: letters, digits and underscores, with no digit in front? -/
def isGroupName (cs : List Char) : Bool :=
  cs.all Text.isWord && (match cs with | [] => false | c :: _ => !Text.isDecimal c)

/-- The flag that a letter sets. -/
def setFlag? (on : Bool) (c : Char) (f : Flags) : Option Flags :=
  match c with
  | 'i' => some { f with ignoreCase := on }
  | 'm' => some { f with multiLine := on }
  | 's' => some { f with dotAll := on }
  | 'x' => some { f with verbose := on }
  | 'a' => if on then some { f with ascii := true } else none
  | 'u' => if on then some { f with ascii := false } else none
  | _ => none

/-- The letters of a flag group: those switched on, those switched off, and whether the flags are
for the whole pattern, because the group closes behind them. -/
def readFlagLetters : Reader (List Char × List Char × Bool) := do
  let n := (← get).rest.length
  let on ← takeWhile n isLetter
  let off ← if ← take "-" then do
      let letters ← takeWhile n isLetter
      if letters.isEmpty then fail else pure letters
    else pure []
  if on.isEmpty && off.isEmpty then fail
  else if on.contains 'a' && on.contains 'u' then fail
  else if on.any off.contains then fail
  else if ← take ":" then return (on, off, false)
  else if off.isEmpty then (if ← take ")" then return (on, off, true) else fail)
  else fail

/-- The flags after switching letters on and off. -/
def applyFlags (f : Flags) (on off : List Char) : Option Flags := do
  let f ← on.foldlM (fun f c => setFlag? true c f) f
  off.foldlM (fun f c => setFlag? false c f) f

/-- The characters that a verbose pattern ignores. -/
def isLayout (c : Char) : Bool := c == ' ' || (9 ≤ c.toNat && c.toNat ≤ 13)

/-- The characters behind a comment, which ends with its line. -/
def dropComment (cs : List Char) : List Char := (cs.dropWhile (· != '\n')).drop 1

/-- Open a group, with a name or without. -/
def openGroup (name : Option String) : Reader Nat := do
  let p ← get
  let n := p.groups + 1
  match name with
  | none => set { p with groups := n }
  | some s =>
    if (p.names.lookup s).isSome then fail
    else set { p with groups := n, names := (s, n) :: p.names }
  return n

/-- The widths of the groups that are closed. -/
def groupWidths (p : Progress) (n : Nat) : Width := (p.widths.lookup n).getD (.exactly 0)

/-- Close a group. -/
def closeGroup (n : Nat) (body : Node) : Reader Node := do
  modify fun p => { p with widths := (n, body.width (groupWidths p)) :: p.widths }
  return .group n body

/-- A group that a conditional or a reference names, by number or by name. -/
def groupNamed (cs : List Char) : Reader Nat := do
  if cs.all isDigit && !cs.isEmpty then return natOfDigits cs
  else if isGroupName cs then
    match (← get).names.lookup (String.ofList cs) with
    | some n => return n
    | none => fail
  else fail

/-- The closing parenthesis of a group. -/
def close : Reader Unit := do if ← take ")" then pure () else fail

mutual
/-- Alternatives between bars. -/
def readAlternatives (flags : Flags) : Nat → Reader Node
  | 0 => fail
  | fuel + 1 => do
    let first ← readSequence flags fuel []
    if ← take "|" then return .alt first (← readAlternatives flags fuel) else return first

/-- The nodes up to a bar, a closing parenthesis or the end; `done` holds those before, in
reverse. -/
def readSequence (flags : Flags) : Nat → List Node → Reader Node
  | 0, _ => fail
  | fuel + 1, done => do
    match ← peek with
    | none => return .ofList done.reverse
    | some '|' => return .ofList done.reverse
    | some ')' => return .ofList done.reverse
    | some c =>
      let _ ← next
      if flags.verbose && isLayout c then readSequence flags fuel done
      else if flags.verbose && c == '#' then
        modify fun p => { p with rest := dropComment p.rest }
        readSequence flags fuel done
      else if let some (least, most) ← readLoop c then
        match done with
        | body :: before =>
          if body.repeatable then
            let mode ← readLoopMode
            readSequence flags fuel (.loop least most mode body :: before)
          else fail
        | [] => fail
      else
        match ← readNode flags fuel c with
        | some node => readSequence flags fuel (node :: done)
        | none => readSequence flags fuel done

/-- The node that starts with `c`, which has been taken; a comment is no node. -/
def readNode (flags : Flags) : Nat → Char → Reader (Option Node)
  | 0, _ => fail
  | fuel + 1, c => do
    match c with
    | '\\' => some <$> readEscape flags
    | '.' => return some (.any flags.dotAll)
    | '^' => return some (.anchor (if flags.multiLine then .lineStart else .textStart))
    | '$' => return some (.anchor (if flags.multiLine then .lineEnd else .lastLineEnd))
    | '[' =>
      let negated ← take "^"
      let items ← readSetItems flags ((← get).rest.length + 1) true
      return some (.set ⟨negated, items, flags.casing⟩)
    | '(' => readGroup flags fuel
    | _ => return some (.literal c flags.casing)

/-- A group, behind its opening parenthesis; a comment is no node. -/
def readGroup (flags : Flags) : Nat → Reader (Option Node)
  | 0 => fail
  | fuel + 1 => do
    if !(← take "?") then
      let n ← openGroup none
      let body ← readAlternatives flags fuel
      close
      some <$> closeGroup n body
    else if ← take "P<" then
      let name ← upTo '>'
      if !isGroupName name then fail
      let n ← openGroup (some (String.ofList name))
      let body ← readAlternatives flags fuel
      close
      some <$> closeGroup n body
    else if ← take "P=" then
      let name ← upTo ')'
      if !isGroupName name then fail
      some <$> readReference flags (← groupNamed name)
    else if ← take ":" then
      let body ← readAlternatives flags fuel
      close
      return some (.group 0 body)
    else if ← take ">" then
      let body ← readAlternatives flags fuel
      close
      return some (.atomic body)
    else if ← take "#" then
      let _ ← upTo ')'
      return none
    else if ← take "=" then some <$> readLook flags true false fuel
    else if ← take "!" then some <$> readLook flags true true fuel
    else if ← take "<=" then some <$> readLook flags false false fuel
    else if ← take "<!" then some <$> readLook flags false true fuel
    else if ← take "(" then
      let n ← groupNamed (← upTo ')')
      let p ← get
      if n == 0 || (p.behind.isSome && !p.isSettled n) then fail
      let yes ← readSequence flags fuel []
      let no ← if ← take "|" then readSequence flags fuel [] else pure .empty
      close
      modify fun p => { p with awaited := max n p.awaited }
      return some (.ifMatched n yes no)
    else
      let (on, off, whole) ← readFlagLetters
      if whole then fail
      match applyFlags flags on off with
      | none => fail
      | some inner =>
        let body ← readAlternatives inner fuel
        close
        return some (.group 0 body)

/-- An assertion about what follows or precedes, behind its opening. -/
def readLook (flags : Flags) (ahead negated : Bool) : Nat → Reader Node
  | 0 => fail
  | fuel + 1 => do
    let outside := (← get).behind
    if !ahead && outside.isNone then modify fun p => { p with behind := some p.groups }
    let body ← readAlternatives flags fuel
    modify fun p => { p with behind := outside }
    close
    let width := body.width (groupWidths (← get))
    if ahead then return .look true negated 0 body
    else if width.most == some width.least then return .look false negated width.least body
    else fail
end

/-- The flags for the whole pattern, which stand at its start, between comments. -/
def readLeadingFlags : Nat → Flags → Reader Flags
  | 0, flags => pure flags
  | fuel + 1, flags => do
    let start ← get
    if flags.verbose && start.rest.head?.any isLayout then
      let _ ← next
      readLeadingFlags fuel flags
    else if flags.verbose && start.rest.head? == some '#' then
      set { start with rest := dropComment start.rest }
      readLeadingFlags fuel flags
    else if ← take "(?#" then
      let _ ← upTo ')'
      readLeadingFlags fuel flags
    else
      match ((do if ← take "(?" then readFlagLetters else fail) : Reader _) start with
      | some ((on, off, true), p) =>
        match applyFlags flags on off with
        | some flags => set p; readLeadingFlags fuel flags
        | none => fail
      | _ => return flags

/-- The node that a pattern stands for; nothing when the pattern is not well-formed. Each step of
reading takes a character or ends a part that has taken one, so the fuel never runs out. -/
def read? (s : String) : Option Node := do
  let cs := s.toList
  let steps : Reader Node := do
    let flags ← readLeadingFlags (cs.length + 1) {}
    let node ← readAlternatives flags (4 * cs.length + 4)
    let p ← get
    if p.rest.isEmpty && p.awaited ≤ p.groups then return node else fail
  (steps.run { rest := cs }).map (·.1)

end ApiContract.Pattern
