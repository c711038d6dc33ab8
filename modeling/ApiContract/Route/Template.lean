import ApiContract.Text.Split

/-!
# Path templates

A path template is a path in which placeholders stand for parts of segments. A placeholder is a
non-empty name in braces that holds neither braces nor a slash; braces that form no placeholder stand
for themselves. A placeholder is filled with one or more characters other than the slash.
-/

namespace ApiContract

/-- A character of a template, or a placeholder. -/
inductive TemplateToken
  | text (c : Char)
  | placeholder
  deriving DecidableEq, Repr

namespace TemplateToken

/-- The tokens of a segment. `pending` holds what follows an open brace, in reverse, as long as it
may become a placeholder. -/
def scan : Option (List Char) → List Char → List TemplateToken
  | none, [] => []
  | some pending, [] => (('\x7b' :: pending.reverse).map text)
  | none, c :: rest => if c == '\x7b' then scan (some []) rest else text c :: scan none rest
  | some pending, c :: rest =>
    if c == '\x7d' && !pending.isEmpty then placeholder :: scan none rest
    else if c == '\x7b' then (('\x7b' :: pending.reverse).map text) ++ scan (some []) rest
    else if c == '\x7d' || c == '/' then
      (('\x7b' :: pending.reverse ++ [c]).map text) ++ scan none rest
    else scan (some (c :: pending)) rest

/-- The tokens of a list of characters. -/
def ofChars (cs : List Char) : List TemplateToken := scan none cs

/-- Do the characters result from filling each placeholder with one or more of them? -/
def fits : List TemplateToken → List Char → Bool
  | [], [] => true
  | [], _ :: _ => false
  | _ :: _, [] => false
  | text c :: rest, d :: cs => c == d && fits rest cs
  | placeholder :: rest, _ :: cs => fits rest cs || fits (placeholder :: rest) cs

end TemplateToken

/-- A segment of a template: plain text, or text with placeholders. -/
inductive Segment
  | literal (text : List Char)
  | pattern (tokens : List TemplateToken)
  deriving DecidableEq, Repr

namespace Segment

/-- The segment that a part of a template stands for. -/
def ofChars (cs : List Char) : Segment :=
  let tokens := TemplateToken.ofChars cs
  if tokens.contains .placeholder then .pattern tokens else .literal cs

/-- Is the segment plain text? -/
def isLiteral : Segment → Bool
  | .literal _ => true
  | .pattern _ => false

/-- Does the segment match a part of a path? -/
def fits : Segment → List Char → Bool
  | .literal text, part => text == part
  | .pattern tokens, part => TemplateToken.fits tokens part

end Segment

/-- A path template, read. -/
structure Template where
  text : String
  segments : List Segment
  deriving DecidableEq, Repr

namespace Template

/-- Read a template. -/
def read (text : String) : Template :=
  ⟨text, (Text.splitChars '/' text.toList).map Segment.ofChars⟩

/-- The number of segments without a placeholder. -/
def literalCount (t : Template) : Nat := (t.segments.filter Segment.isLiteral).length

/-- Do the segments match the parts one by one? -/
def fitsParts : List Segment → List (List Char) → Bool
  | [], [] => true
  | s :: segments, p :: parts => s.fits p && fitsParts segments parts
  | _, _ => false

/-- Does the template match a path? -/
def fits (t : Template) (path : String) : Bool :=
  fitsParts t.segments (Text.splitChars '/' path.toList)

end Template

end ApiContract
