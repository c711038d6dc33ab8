import ApiContract.Failure.ContractError
import ApiContract.Schema.Judge

/-!
# Reports

A report is what a client gets of an error: a code, the location at fault, a message and suggestions
in order. An error can be made from anything that was found wrong, not only from violations of a
schema: a finding carries a path and a message of its own, or just stands for itself as text.
-/

namespace ApiContract

/-- The value that a step leads by. -/
def Step.value : Step → Value
  | .member name => .str name
  | .index i => .int i

/-- Something that was found wrong: the path and the message that it carries, null where it carries
none, and its text as a whole. -/
structure Finding where
  path : Value := .null
  message : Value := .null
  text : String

namespace Finding

/-- A value that was found wrong. It carries neither a path nor a message. -/
def ofValue (v : Value) : Finding := { text := v.text }

/-- A violation of a schema carries both. -/
def ofViolation (v : Violation) : Finding :=
  { path := .list (v.path.map Step.value), message := .str v.message, text := v.message }

/-- The steps of a path, which may also be given as a text, an object or bytes. -/
def steps : Value → Except Fault (List Value)
  | .scalar (.bytes data) => .ok (data.map fun b => .int b.toNat)
  | path => Schema.partsOf path

/-- The path as text: each step behind a slash, a falsy path as the empty text. -/
def pathText (f : Finding) : Except Fault String :=
  if f.path.truthy then do
    let steps ← steps f.path
    return "/" ++ "/".intercalate (steps.map Value.text)
  else return ""

/-- The message. A finding whose message is no text stands for itself. -/
def wording (f : Finding) : String := f.message.string?.getD f.text

/-- The written form of a finding. -/
def suggestion (f : Finding) : Except Fault Suggestion := do
  let path ← f.pathText
  return ⟨path, f.wording⟩

end Finding

/-- What an error is made from. The code is that of the kind when no other is given. -/
structure Complaint where
  kind : ErrorKind
  message : String
  location : String
  findings : List Finding := []
  code : Option Int := none

/-- What a client gets of an error. -/
structure Report where
  code : Int
  location : String
  message : String
  suggestions : List Suggestion
  deriving DecidableEq, Repr

/-- The report of a complaint: its findings are written one by one and then ordered. -/
def Complaint.report (c : Complaint) : Except Fault Report := do
  let written ← c.findings.mapM Finding.suggestion
  return ⟨c.code.getD c.kind.defaultCode, c.location, c.message, written.mergeSort Suggestion.le⟩

namespace ContractError

/-- What the error is made from. -/
def complaint (e : ContractError) : Complaint :=
  { kind := e.kind, message := e.message, location := e.location,
    findings := e.violations.map Finding.ofViolation, code := some e.code }

/-- The report of the error. -/
def report (e : ContractError) : Report := ⟨e.code, e.location, e.message, e.suggestions⟩

end ContractError

end ApiContract
