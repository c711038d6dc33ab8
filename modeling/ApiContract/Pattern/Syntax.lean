import ApiContract.Pattern.Casing

/-!
# Patterns

The syntax of a regular expression with groups, references back to groups, assertions, and loops
that are greedy, lazy or possessive. Flags such as case-insensitivity are resolved when a pattern is
read, so each node carries the flags it needs.
-/

namespace ApiContract.Pattern

/-- The predefined classes of characters. -/
inductive Category
  | digit
  | space
  | word
  deriving DecidableEq, Repr

/-- One member of a character set. -/
inductive SetItem
  | range (first last : Char)
  /-- A predefined class or its complement; with `ascii` the class has only its ASCII members. -/
  | category (kind : Category) (ascii negated : Bool)
  deriving DecidableEq, Repr

/-- A set of characters. -/
structure CharSet where
  negated : Bool
  items : List SetItem
  casing : Casing
  deriving DecidableEq, Repr

/-- The places in a text at which an anchor matches. -/
inductive Anchor
  | textStart
  | textEnd
  /-- The end of the text, or before a line feed that ends it. -/
  | lastLineEnd
  | lineStart
  | lineEnd
  | wordBoundary (ascii negated : Bool)
  deriving DecidableEq, Repr

/-- How a loop chooses its number of rounds. -/
inductive LoopMode
  | greedy
  | lazy
  | possessive
  deriving DecidableEq, Repr

/-- A regular expression. -/
inductive Node
  | empty
  /-- Any character; without `dotAll` not a line feed. -/
  | any (dotAll : Bool)
  | set (chars : CharSet)
  | anchor (kind : Anchor)
  | seq (first second : Node)
  | alt (first second : Node)
  | loop (least : Nat) (most : Option Nat) (mode : LoopMode) (body : Node)
  /-- A group; groups that are not to be referred to have number zero. -/
  | group (number : Nat) (body : Node)
  /-- The text that a group has matched. -/
  | sameAs (group : Nat) (casing : Casing)
  | look (ahead negated : Bool) (width : Nat) (body : Node)
  | atomic (body : Node)
  /-- One of two bodies, as the group has matched or not. -/
  | ifMatched (group : Nat) (yes no : Node)
  deriving Repr, Inhabited

/-- The least and the greatest number of characters that something matches. -/
structure Width where
  least : Nat
  most : Option Nat
  deriving DecidableEq, Repr

namespace Width

/-- The width of what always matches the same number of characters. -/
def exactly (n : Nat) : Width := ⟨n, some n⟩

/-- The width of one thing behind another. -/
def add (a b : Width) : Width := ⟨a.least + b.least, do return (← a.most) + (← b.most)⟩

/-- The width of one of two things. -/
def either (a b : Width) : Width :=
  ⟨min a.least b.least, do return max (← a.most) (← b.most)⟩

/-- The width of a number of rounds. -/
def times (w : Width) (least : Nat) (most : Option Nat) : Width :=
  ⟨w.least * least, if w.most = some 0 then some 0 else do return (← w.most) * (← most)⟩

end Width

/-- The widths of a node, given the widths of the groups. -/
def Node.width (groups : Nat → Width) : Node → Width
  | .empty => .exactly 0
  | .any _ => .exactly 1
  | .set _ => .exactly 1
  | .anchor _ => .exactly 0
  | .seq a b => (a.width groups).add (b.width groups)
  | .alt a b => (a.width groups).either (b.width groups)
  | .loop least most _ body => (body.width groups).times least most
  | .group _ body => body.width groups
  | .sameAs n _ => groups n
  | .look _ _ _ _ => .exactly 0
  | .atomic body => body.width groups
  | .ifMatched _ yes no => (yes.width groups).either (no.width groups)

/-- A literal character. -/
def Node.literal (c : Char) (casing : Casing) : Node :=
  .set ⟨false, [.range c c], casing⟩

end ApiContract.Pattern
