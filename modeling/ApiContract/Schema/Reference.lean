import ApiContract.Failure.Fault
import ApiContract.Number.Decimal
import ApiContract.Schema.Judge

/-!
# References

A reference leads to a part of the schema in which it stands: `#` or the empty text to the whole, and
`#/…` along a pointer whose segments are member names or list indices. Any other reference leads
nowhere.
-/

namespace ApiContract.Schema

/-- The bytes of a text in which percent signs with two hexadecimal digits stand for a byte. -/
def percentBytes : List Char → List UInt8
  | '%' :: a :: b :: rest =>
    match hexDigit? a, hexDigit? b with
    | some x, some y => UInt8.ofNat (16 * x + y) :: percentBytes rest
    | _, _ => '%'.toNat.toUInt8 :: percentBytes (a :: b :: rest)
  | c :: rest => (String.singleton c).toUTF8.toList ++ percentBytes rest
  | [] => []

/-- The text that is meant by a percent-encoded one; bytes that are no text are replaced. -/
def percentDecoded (s : String) : String :=
  if s.toList.contains '%' then
    let bytes := percentBytes s.toList
    match String.fromUTF8? ⟨bytes.toArray⟩ with
    | some text => text
    | none => String.ofList (bytes.map fun b =>
        if b < 0x80 then Char.ofNat b.toNat else Char.ofNat 0xFFFD)
  else s

/-- A member name in a pointer, where `~1` stands for a slash and `~0` for a tilde. -/
def unescaped (segment : String) : String :=
  "~".intercalate (("/".intercalate (segment.splitOn "~1")).splitOn "~0")

/-- The integer that a segment spells, with a sign or without. -/
def indexOf? (segment : String) : Option Int :=
  let (negative, digits) := match segment.toList with
    | '-' :: rest => (true, rest)
    | '+' :: rest => (false, rest)
    | cs => (false, cs)
  if digits.isEmpty || !digits.all isDigit then none
  else some (if negative then -(natOfDigits digits : Int) else natOfDigits digits)

/-- The item at an index; negative indices count from the end. -/
def itemAt (items : List Value) (i : Int) : Except Fault Value :=
  let j := if i < 0 then i + items.length else i
  if j < 0 then .error .unresolvableReference
  else
    match items[j.toNat]? with
    | some v => .ok v
    | none => .error .unresolvableReference

/-- One step along a pointer. -/
def stepInto (v : Value) (segment : String) : Except Fault Value :=
  match v with
  | .object fields =>
    match Value.lookup fields (unescaped segment) with
    | some w => .ok w
    | none => .error .unresolvableReference
  | .list _ | .str _ => do
    match indexOf? segment with
    | some i => itemAt (← partsOf v) i
    | none => throw .badValue
  | _ => .error .wrongShape

/-- The part of the schema to which a reference leads. -/
def resolve (root : Value) (reference : String) : Except Fault Value :=
  if reference = "#" ∨ reference = "" then .ok root
  else if reference.startsWith "#/" then
    ((percentDecoded (reference.drop 2).toString).splitOn "/").foldlM stepInto root
  else .error .unresolvableReference

/-- The part of the schema to which the value of a reference keyword leads. -/
def resolveValue (root : Value) : Value → Except Fault Value
  | .str reference => resolve root reference
  | _ => .error .wrongShape

end ApiContract.Schema
