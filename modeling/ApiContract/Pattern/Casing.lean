import ApiContract.Text.Case

/-!
# Letters, case aside

A pattern takes characters exactly, or as the same when they have the same lower case, among all
characters or among those of ASCII. Some lower-case characters count as the same letter too, because
they share an upper case.
-/

namespace ApiContract.Pattern

/-- When two characters are the same for a pattern. -/
inductive Casing
  | exact
  | ascii
  | full
  deriving DecidableEq, Repr

/-- The lower-case characters that share an upper case with another one, letter by letter. -/
def letterClasses : List (List Nat) :=
  [[0x69, 0x131], [0x73, 0x17F], [0xB5, 0x3BC], [0x345, 0x3B9, 0x1FBE], [0x390, 0x1FD3],
    [0x3B0, 0x1FE3], [0x3B2, 0x3D0], [0x3B5, 0x3F5], [0x3B8, 0x3D1], [0x3BA, 0x3F0],
    [0x3C0, 0x3D6], [0x3C1, 0x3F1], [0x3C2, 0x3C3], [0x3C6, 0x3D5], [0x432, 0x1C80],
    [0x434, 0x1C81], [0x43E, 0x1C82], [0x441, 0x1C83], [0x442, 0x1C84, 0x1C85], [0x44A, 0x1C86],
    [0x463, 0x1C87], [0x1C88, 0xA64B], [0x1E61, 0x1E9B], [0xFB05, 0xFB06]]

/-- The lower-case characters that are the same letter as a lower-case character. -/
def letterClass (low : Char) : List Char :=
  match letterClasses.find? (·.contains low.toNat) with
  | some ns => ns.map Char.ofNat
  | none => [low]

namespace Casing

/-- The lower case of a character, as far as it counts. -/
def lower : Casing → Char → Char
  | .exact, c => c
  | .ascii, c => c.toLower
  | .full, c => Text.lowerSimple c

/-- All characters that are the same as a character. -/
def variants : Casing → Char → List Char
  | .exact, c => [c]
  | .ascii, c => [c.toLower, c.toUpper]
  | .full, c => (letterClass (Text.lowerSimple c)).flatMap Text.lowerSources

end Casing

end ApiContract.Pattern
