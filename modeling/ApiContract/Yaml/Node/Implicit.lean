import ApiContract.Number.Decimal
import ApiContract.Text.Split
import ApiContract.Yaml.Node
import ApiContract.Yaml.Scalar.Timestamp

/-!
# Tags that are not written

A plain scalar without a tag is a truth value, a number, null, a timestamp or one of two special keys
if it is spelled like one, and a text otherwise. Numbers may hold underscores; integers are decimal,
octal with a leading `0`, hexadecimal with `0x`, binary with `0b`, or sexagesimal with colons; a float
has a point, and its exponent has a sign.
-/

namespace ApiContract.Yaml

/-- The characters behind a sign, if there is one. -/
def dropSign : List Char → List Char
  | '+' :: cs => cs
  | '-' :: cs => cs
  | cs => cs

/-- Is the character a digit or an underscore? -/
def isSpacedDigit (c : Char) : Bool := isDigit c || c == '_'

/-- Does the list start with a character that satisfies a condition? -/
def startsWith (ok : Char → Bool) (cs : List Char) : Bool := cs.head?.any ok

/-- Is the text one or two digits for a number below sixty? -/
def isSixtieth : List Char → Bool
  | [d] => isDigit d
  | [t, d] => '0' ≤ t && t ≤ '5' && isDigit d
  | _ => false

/-- Is the text a number with further parts in base sixty, the first digit and the others being as
given? -/
def isSexagesimal (first : Char → Bool) (cs : List Char) : Bool :=
  match Text.splitChars ':' cs with
  | whole :: part :: parts =>
    startsWith first whole && whole.all isSpacedDigit && (part :: parts).all isSixtieth
  | _ => false

/-- Is the character one of `1` to `9`? -/
def isNonzeroDigit (c : Char) : Bool := isDigit c && c != '0'

/-- Is the text spelled like an integer? -/
def isIntText (cs : List Char) : Bool :=
  match dropSign cs with
  | '0' :: 'b' :: ds =>
    !ds.isEmpty && ds.all fun c => c == '0' || c == '1' || c == '_'
  | '0' :: 'x' :: ds => !ds.isEmpty && ds.all fun c => isHexDigit c || c == '_'
  | '0' :: ds => ds.all fun c => ('0' ≤ c && c ≤ '7') || c == '_'
  | ds =>
    startsWith isNonzeroDigit ds && ds.all isSpacedDigit || isSexagesimal isNonzeroDigit ds

/-- Is the text empty or an exponent with a sign? -/
def isSignedExponent : List Char → Bool
  | [] => true
  | e :: s :: ds => (e == 'e' || e == 'E') && (s == '+' || s == '-') && !ds.isEmpty && ds.all isDigit
  | _ => false

/-- Is the text digits of a fraction and an optional exponent? -/
def isFractionText (cs : List Char) : Bool := isSignedExponent (cs.dropWhile isSpacedDigit)

/-- Is the text spelled like a float? -/
def isFloatText (cs : List Char) : Bool :=
  let body := dropSign cs
  let whole := body.takeWhile (· != '.')
  match body.dropWhile (· != '.') with
  | _ :: fraction =>
    if whole.isEmpty then
      (body == cs && startsWith isDigit fraction && isFractionText fraction) ||
        [".inf", ".Inf", ".INF"].contains (String.ofList body) ||
        [".nan", ".NaN", ".NAN"].contains (String.ofList cs)
    else
      (startsWith isDigit whole && whole.all isSpacedDigit && isFractionText fraction) ||
        (isSexagesimal isDigit whole && fraction.all isSpacedDigit)
  | [] => false

/-- Is the text spelled like a truth value? -/
def isBoolText (s : String) : Bool :=
  ["yes", "Yes", "YES", "no", "No", "NO", "true", "True", "TRUE", "false", "False", "FALSE",
    "on", "On", "ON", "off", "Off", "OFF"].contains s

/-- Is the text spelled like null? -/
def isNullText (s : String) : Bool := ["", "~", "null", "Null", "NULL"].contains s

/-- The tag of a plain scalar that none is written for. -/
def Tag.ofPlain (s : String) : Tag :=
  let cs := s.toList
  if isBoolText s then .bool
  else if isFloatText cs then .float
  else if isIntText cs then .int
  else if s == "<<" then .merge
  else if isNullText s then .null
  else if Timestamp.isImplicit cs then .timestamp
  else if s == "=" then .value
  else if ["!", "&", "*"].contains s then .other
  else .str

end ApiContract.Yaml
