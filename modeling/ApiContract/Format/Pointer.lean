import ApiContract.Number.Decimal

/-!
# JSON pointers

A pointer is empty or starts with a slash, and a tilde in it is followed by a zero or a one. A
relative pointer has a number of levels in front.
-/

namespace ApiContract.Format

/-- Is every tilde followed by a zero or a one? -/
def tildesOk : List Char → Bool
  | [] => true
  | '~' :: rest =>
    (match rest with
      | c :: _ => c == '0' || c == '1'
      | [] => false) && tildesOk rest
  | _ :: rest => tildesOk rest

/-- Is the list of characters a JSON pointer? -/
def isPointerChars (cs : List Char) : Bool :=
  tildesOk cs && (cs.isEmpty || cs.head? == some '/')

/-- Is the text a JSON pointer? -/
def isPointer (s : String) : Bool := isPointerChars s.toList

/-- Is there a zero with another digit behind it? -/
def zeroBeforeDigit : List Char → Bool
  | a :: b :: rest => (a == '0' && isDigit b) || zeroBeforeDigit (b :: rest)
  | _ => false

/-- Is the text a relative pointer: levels, in whose number no zero stands before a digit, then a
hash sign or a pointer? -/
def isRelativePointer (s : String) : Bool :=
  let cs := s.toList
  let levels := cs.takeWhile isDigit
  let rest := cs.dropWhile isDigit
  !levels.isEmpty && !zeroBeforeDigit levels && (rest == ['#'] || isPointerChars rest)

end ApiContract.Format
