/-!
# Faults

A fault is what stops a computation that can neither accept nor refuse its input: a document that
uses a value of the wrong shape, names something that does not exist, or asks for an impossible
computation.
-/

namespace ApiContract

/-- The reasons why a computation stops without an answer. -/
inductive Fault
  /-- A value is used as if it had another shape. -/
  | wrongShape
  /-- A value has the right shape, but no sense where it stands. -/
  | badValue
  /-- A schema asks for a type that does not exist. -/
  | unknownType
  /-- A pattern that is not well-formed is matched against a text. -/
  | badPattern
  /-- A reference leads nowhere. -/
  | unresolvableReference
  /-- References lead in a circle without end. -/
  | endlessReference
  /-- A text with characters beyond ASCII is read as encoded bytes. -/
  | notAscii
  /-- A number is to be a multiple of zero. -/
  | divisionByZero
  /-- An integer is too large for a binary64 number. -/
  | tooLarge
  /-- A schema engine refuses to work. -/
  | brokenEngine
  /-- A file does not exist. -/
  | missingFile
  /-- A file is not well-formed JSON. -/
  | malformedJson
  /-- A file is not well-formed YAML. -/
  | malformedYaml
  deriving DecidableEq, Repr

end ApiContract
