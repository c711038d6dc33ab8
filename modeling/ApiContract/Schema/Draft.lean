import ApiContract.Failure.Fault
import ApiContract.Value.Basic

/-!
# Drafts

A schema inside another schema can declare under `$schema` the draft in which it is written. It is then
evaluated as that draft says, and so is everything inside it, and the dialect of the document no longer
counts. A draft that is not known is as good as none.
-/

namespace ApiContract

/-- The drafts that a schema can declare. -/
inductive Draft
  | draft3 | draft4 | draft6 | draft7 | draft201909 | draft202012
  deriving DecidableEq, Repr

namespace Draft

/-- The position of a draft in the order in which the drafts appeared. -/
def number : Draft → Nat
  | draft3 => 3
  | draft4 => 4
  | draft6 => 6
  | draft7 => 7
  | draft201909 => 8
  | draft202012 => 9

/-- The drafts by the identifier that a schema declares. -/
def identifiers : List (String × Draft) :=
  [("http://json-schema.org/draft-03/schema", draft3),
    ("http://json-schema.org/draft-04/schema", draft4),
    ("http://json-schema.org/draft-06/schema", draft6),
    ("http://json-schema.org/draft-07/schema", draft7),
    ("https://json-schema.org/draft/2019-09/schema", draft201909),
    ("https://json-schema.org/draft/2020-12/schema", draft202012)]

/-- A text without the given character at its end. -/
def withoutLast (c : Char) (cs : List Char) : List Char :=
  if cs.getLast? = some c then cs.dropLast else cs

/-- The form in which identifiers are compared: control characters and blanks before it and line
breaks within it do not count, nor does the case of the scheme, an empty fragment or an empty query. -/
def normalized (identifier : String) : String :=
  let kept := (identifier.toList.dropWhile (· ≤ ' ')).filter (· ∉ ['\t', '\n', '\r'])
  let scheme := (kept.takeWhile (· ≠ ':')).map Char.toLower
  let rest := kept.dropWhile (· ≠ ':')
  String.ofList (withoutLast '?' (withoutLast '#' (scheme ++ rest)))

/-- The draft with the given identifier. -/
def named? (identifier : String) : Option Draft := identifiers.lookup (normalized identifier)

/-- The draft that a schema with the given fields declares. Only a text can be an identifier; what
counts as false, and bytes, declare nothing. -/
def declared? (fields : Fields) : Except Fault (Option Draft) :=
  match Value.lookup fields "$schema" with
  | none => .ok none
  | some (.str identifier) => .ok (named? identifier)
  | some (.scalar (.bytes _)) => .ok none
  | some (.scalar s) => if (Value.scalar s).truthy then .error .wrongShape else .ok none
  | some _ => .error .wrongShape

end Draft

end ApiContract
