/-!
# Tokens

The tokens of a YAML text: the marks of its syntax, the starts and ends that indentation implies, and
scalars.
-/

namespace ApiContract.Yaml

/-- A token. -/
inductive Token
  | versionDirective (major : Nat)
  | tagDirective (handle target : String)
  | otherDirective
  | documentStart
  | documentEnd
  | blockSequenceStart
  | blockMappingStart
  | blockEnd
  | flowSequenceStart
  | flowSequenceEnd
  | flowMappingStart
  | flowMappingEnd
  | blockEntry
  | flowEntry
  | key
  | value
  | alias (name : String)
  | anchor (name : String)
  /-- A tag by its handle, if it has one, and the rest. -/
  | tag (handle : Option String) (suffix : String)
  | scalar (text : String) (plain : Bool)
  deriving DecidableEq, Repr

end ApiContract.Yaml
