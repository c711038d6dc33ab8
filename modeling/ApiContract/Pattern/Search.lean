import ApiContract.Pattern.Syntax
import ApiContract.Text.Blank
import ApiContract.Text.Word

/-!
# Searching

A pattern is searched for by backtracking: a node consumes a part of the text and hands the place
behind it to a continuation, and when the continuation fails the node tries its next choice. A loop
stops after a round that consumes nothing, so the length of the text bounds its rounds.
-/

namespace ApiContract.Pattern

/-- Is the character in a predefined class? -/
def Category.contains (ascii : Bool) (c : Char) : Category → Bool
  | .digit => if ascii then '0' ≤ c && c ≤ '9' else Text.isDecimal c
  | .space =>
    if ascii then (9 ≤ c.toNat && c.toNat ≤ 13) || c == ' ' else Text.isBlank c
  | .word => if ascii then c.isAlphanum || c == '_' else Text.isWord c

/-- Is the character, or one that is the same, one of the item? -/
def SetItem.contains (casing : Casing) (c : Char) : SetItem → Bool
  | .range first last => (casing.variants c).any fun d => first ≤ d && d ≤ last
  | .category kind ascii negated => kind.contains ascii c != negated

/-- Does the set match the character? -/
def CharSet.matches (s : CharSet) (c : Char) : Bool :=
  (s.items.any (SetItem.contains s.casing c)) != s.negated

/-- A place in the text, with the parts that the groups have matched so far. -/
structure State where
  pos : Nat
  groups : List (Nat × Nat × Nat) := []

/-- The part of the text that a group has matched, as its two ends. -/
def State.group? (st : State) (n : Nat) : Option (Nat × Nat) := st.groups.lookup n

/-- What is to be matched behind a node: it succeeds with a state or fails. -/
abbrev Continuation := State → Option State

/-- A node as the action that it takes at a state. -/
abbrev Matcher := State → Continuation → Option State

/-- Is there a word character at the index? -/
def wordAt (text : Array Char) (ascii : Bool) (i : Nat) : Bool :=
  match text[i]? with
  | some c => Category.word.contains ascii c
  | none => false

/-- Does the anchor match at the place? In an empty text there is neither a word boundary nor a place
that is none. -/
def Anchor.holds (text : Array Char) (i : Nat) : Anchor → Bool
  | .textStart => i == 0
  | .textEnd => i == text.size
  | .lastLineEnd => i == text.size || (i + 1 == text.size && text[i]? == some '\n')
  | .lineStart => i == 0 || text[i - 1]? == some '\n'
  | .lineEnd => i == text.size || text[i]? == some '\n'
  | .wordBoundary ascii negated =>
    let before := i != 0 && wordAt text ascii (i - 1)
    text.size != 0 && (before != wordAt text ascii i) != negated

/-- The rounds of a loop after `done` rounds. The fuel bounds the rounds that are left. -/
def rounds (body : Matcher) (least : Nat) (most : Option Nat) (eager : Bool) :
    Nat → Nat → State → Continuation → Option State
  | 0, _, st, k => k st
  | fuel + 1, done, st, k =>
    if done < least then body st fun st' => rounds body least most eager fuel (done + 1) st' k
    else
      let again : Unit → Option State := fun _ =>
        if most.any (· ≤ done) then none
        else body st fun st' =>
          -- A round that consumes nothing would leave the loop where it is.
          if st'.pos == st.pos then none else rounds body least most eager fuel (done + 1) st' k
      if eager then
        match again () with
        | some r => some r
        | none => k st
      else
        match k st with
        | some r => some r
        | none => again ()

/-- Do the characters from `i` on repeat the `count` characters from `start` on? -/
def repeats (text : Array Char) (casing : Casing) (start i : Nat) : Nat → Bool
  | 0 => true
  | count + 1 =>
    match text[start]?, text[i]? with
    | some a, some b =>
      casing.lower a == casing.lower b && repeats text casing (start + 1) (i + 1) count
    | _, _ => false

/-- The action of a node. -/
def Node.run (text : Array Char) : Node → Matcher
  | .empty, st, k => k st
  | .any dotAll, st, k =>
    match text[st.pos]? with
    | some c => if dotAll || c != '\n' then k { st with pos := st.pos + 1 } else none
    | none => none
  | .set chars, st, k =>
    match text[st.pos]? with
    | some c => if chars.matches c then k { st with pos := st.pos + 1 } else none
    | none => none
  | .anchor kind, st, k => if kind.holds text st.pos then k st else none
  | .seq a b, st, k => a.run text st fun st' => b.run text st' k
  | .alt a b, st, k =>
    match a.run text st k with
    | some r => some r
    | none => b.run text st k
  | .loop least most mode body, st, k =>
    let fuel := least + (text.size - st.pos) + 1
    match mode with
    | .greedy => rounds (body.run text) least most true fuel 0 st k
    | .lazy => rounds (body.run text) least most false fuel 0 st k
    | .possessive =>
      match rounds (body.run text) least most true fuel 0 st some with
      | some st' => k st'
      | none => none
  | .group n body, st, k =>
    body.run text st fun st' => k { st' with groups := (n, st.pos, st'.pos) :: st'.groups }
  | .sameAs n casing, st, k =>
    match st.group? n with
    | some (first, last) =>
      if repeats text casing first st.pos (last - first) then
        k { st with pos := st.pos + (last - first) }
      else none
    | none => none
  | .look ahead negated width body, st, k =>
    let found : Option State :=
      if ahead then body.run text st some
      else if st.pos < width then none
      else body.run text { st with pos := st.pos - width } some
    -- What the groups matched inside stays matched; the place goes back to where it was.
    match found, negated with
    | some st', false => k { st' with pos := st.pos }
    | none, true => k st
    | _, _ => none
  | .atomic body, st, k =>
    match body.run text st some with
    | some st' => k st'
    | none => none
  | .ifMatched n yes no, st, k =>
    if (st.group? n).isSome then yes.run text st k else no.run text st k

/-- Does the node match at some place from `i` on? `count` places are tried. -/
def Node.findFrom (text : Array Char) (node : Node) (i : Nat) : Nat → Bool
  | 0 => false
  | count + 1 =>
    (node.run text { pos := i } some).isSome || node.findFrom text (i + 1) count

/-- Does the node match somewhere in the text? -/
def Node.occursIn (node : Node) (s : String) : Bool :=
  let text := s.toList.toArray
  node.findFrom text 0 (text.size + 1)

end ApiContract.Pattern
