import ApiContract.Failure.Fault
import ApiContract.Format.Moment
import ApiContract.Format.Pointer
import ApiContract.Format.Resource
import ApiContract.Format.Token
import ApiContract.Pattern.Reader
import ApiContract.Schema.Dialect
import ApiContract.Value.Basic

/-!
# Formats

The formats that the keyword `format` can name, and what each says about a value. A format of texts
says nothing about other values, and a format of integers nothing about values that are no integers.
-/

namespace ApiContract

/-- The formats that are checked. -/
inductive Format
  | color | date | dateTime | duration | email | hostname | idnEmail | idnHostname | ipv4 | ipv6
  | iri | iriReference | jsonPointer | regex | relativeJsonPointer | time | uri | uriReference
  | uriTemplate | uuid
  | int32 | int64 | float | double | password
  | byte | binary
  deriving DecidableEq, Repr

namespace Format

/-- The formats of either dialect by name. -/
def shared : List (String × Format) :=
  [("color", color), ("date", date), ("date-time", dateTime), ("duration", duration),
    ("email", email), ("hostname", hostname), ("idn-email", idnEmail),
    ("idn-hostname", idnHostname), ("ipv4", ipv4), ("ipv6", ipv6), ("iri", iri),
    ("iri-reference", iriReference), ("json-pointer", jsonPointer), ("regex", regex),
    ("relative-json-pointer", relativeJsonPointer), ("time", time), ("uri", uri),
    ("uri-reference", uriReference), ("uri-template", uriTemplate), ("uuid", uuid),
    ("int32", int32), ("int64", int64), ("float", float), ("double", double),
    ("password", password)]

/-- The formats of the earlier dialect alone. -/
def early : List (String × Format) := [("byte", byte), ("binary", binary)]

/-- The format that a dialect knows under a name. -/
def named? (d : Dialect) (name : String) : Option Format :=
  match d with
  | .v30 => (shared ++ early).lookup name
  | .v31 => shared.lookup name

/-- Is the integer in the range of signed integers with the given number of bits? -/
def fits (bits : Nat) (n : Int) : Bool :=
  let half : Int := Nat.pow 2 (bits - 1)
  0 ≤ n + half && n < half

/-- Is the text of the format? Formats that say nothing about texts admit every one. -/
def admitsText (f : Format) (s : String) : Except Fault Bool :=
  match f with
  | color => .ok (isColor s)
  | date => .ok (isDate s)
  | dateTime => .ok (isDateTime s)
  | duration => .ok (isDuration s)
  | email | idnEmail => .ok (s.toList.contains '@')
  | hostname => .ok (isHostname s)
  | idnHostname => .ok (isInternationalHostname s)
  | ipv4 => .ok (isIPv4 s)
  | ipv6 => .ok (isIPv6 s)
  | iri => .ok (isIdentifier .iri s)
  | iriReference => .ok (isReference .iri s)
  | jsonPointer => .ok (isPointer s)
  | regex => .ok (Pattern.read? s).isSome
  | relativeJsonPointer => .ok (isRelativePointer s)
  | time => .ok (isTime s)
  | uri => .ok (isIdentifier .uri s)
  | uriReference => .ok (isReference .uri s)
  | uriTemplate => .ok (isTemplate s)
  | uuid => .ok (isUuid s)
  | byte => if s.toList.any (fun c => 0x80 ≤ c.toNat) then .error .notAscii else .ok (isBase64 s)
  | int32 | int64 | float | double | password | binary => .ok true

/-- Is the value of the format? -/
def admits (f : Format) : Value → Except Fault Bool
  | .str s => f.admitsText s
  | .int n =>
    match f with
    | int32 => .ok (fits 32 n)
    | int64 => .ok (fits 64 n)
    | _ => .ok true
  | _ => .ok true

end Format

end ApiContract
