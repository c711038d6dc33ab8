import ApiContract.Value.Display

/-!
# Writing JSON

A value is written on one line, its fields in order. Infinities and what is no number are written by
name, and other scalars that JSON does not have as strings.
-/

namespace ApiContract.Json

/-- One character between double quotes. -/
def escapeChar (c : Char) : List Char :=
  if c == '"' || c == '\\' then ['\\', c]
  else if c.toNat < 0x20 then '\\' :: 'u' :: Text.hexText 4 c.toNat
  else [c]

/-- A text between double quotes. -/
def quoted (s : String) : String := String.ofList ('"' :: s.toList.flatMap escapeChar ++ ['"'])

/-- Numbers are laid out as in messages, but for the names of the infinities and of what is no
number. -/
def floatLayout : FloatLayout :=
  { Value.floatLayout with infinity := "Infinity", notANumber := "NaN" }

/-- A scalar as JSON. -/
def writeScalar : Scalar → String
  | .null => "null"
  | .bool true => "true"
  | .bool false => "false"
  | .int n => toString n
  | .float x => floatLayout.write x
  | s => quoted (Value.scalarText s)

mutual
/-- A value as JSON. -/
def write : Value → String
  | .scalar s => writeScalar s
  | .list items => "[" ++ ",".intercalate (writeItems items) ++ "]"
  | .object fields => "\x7b" ++ ",".intercalate (writeFields fields) ++ "\x7d"

/-- The items of a list, each as JSON. -/
def writeItems : List Value → List String
  | [] => []
  | v :: rest => write v :: writeItems rest

/-- The fields of an object, each as JSON. -/
def writeFields : Fields → List String
  | [] => []
  | (k, v) :: rest => (quoted (Value.scalarText k) ++ ":" ++ write v) :: writeFields rest
end

end ApiContract.Json
