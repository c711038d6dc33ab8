import ApiContract.Value.Basic
import ApiContract.Number.Shortest
import ApiContract.Text.Quoted

/-!
# The text of a value

Messages show a value as `display` writes it: strings are quoted, lists stand in brackets and
objects in braces, in document order. `text` is the same, but for a string itself.
-/

namespace ApiContract

namespace Value

/-- Numbers are positional from `1e-4` up to `1e16`; elsewhere the exponent has two digits or more. -/
def floatLayout : FloatLayout where
  leastPositional := -4
  endPositional := 16
  exponentWidth := 2
  infinity := "inf"
  notANumber := "nan"

/-- A date as the call that makes it. -/
def displayDate (d : Date) : String :=
  "datetime.date(" ++ ", ".intercalate [toString d.year, toString d.month, toString d.day] ++ ")"

/-- An offset from universal time as the call that makes it. -/
def displayOffset (o : Int) : String :=
  if o = 0 then "datetime.timezone.utc"
  else
    let days := o.fdiv 86400
    let seconds := o.fmod 86400
    let parts := (if days = 0 then [] else ["days=" ++ toString days]) ++
      (if seconds = 0 then [] else ["seconds=" ++ toString seconds])
    "datetime.timezone(datetime.timedelta(" ++ ", ".intercalate parts ++ "))"

/-- A moment as the call that makes it; seconds and microseconds are left out when both are zero. -/
def displayMoment (m : Moment) : String :=
  let date := [m.date.year, m.date.month, m.date.day, m.hour, m.minute]
  let fine := if m.microsecond ≠ 0 then [m.second, m.microsecond]
    else if m.second ≠ 0 then [m.second] else []
  let zone := match m.offset with
    | none => []
    | some o => ["tzinfo=" ++ displayOffset o]
  "datetime.datetime(" ++ ", ".intercalate ((date ++ fine).map toString ++ zone) ++ ")"

/-- One byte between quotes: printable ASCII is written as it is. -/
def displayByte (quote : Char) (b : UInt8) : List Char :=
  if b.toNat < 0x7F && 0x20 ≤ b.toNat || b.toNat ∈ [9, 10, 13] then
    Text.escapeChar quote (Char.ofNat b.toNat)
  else '\\' :: 'x' :: Text.hexText 2 b.toNat

/-- Bytes between quotes, marked by a letter in front. -/
def displayBytes (data : List UInt8) : String :=
  let q := Text.quoteFor (data.map fun b => Char.ofNat b.toNat)
  String.ofList ('b' :: q :: data.flatMap (displayByte q) ++ [q])

/-- The text of a scalar in a message. -/
def displayScalar : Scalar → String
  | .null => "None"
  | .bool true => "True"
  | .bool false => "False"
  | .int n => toString n
  | .float x => floatLayout.write x
  | .str s => Text.quoted s
  | .date d => displayDate d
  | .moment m => displayMoment m
  | .bytes data => displayBytes data

mutual
/-- The text of a value in a message. -/
def display : Value → String
  | .scalar s => displayScalar s
  | .list items => "[" ++ ", ".intercalate (displayItems items) ++ "]"
  | .object fields => "\x7b" ++ ", ".intercalate (displayFields fields) ++ "\x7d"

/-- The texts of the items of a list. -/
def displayItems : List Value → List String
  | [] => []
  | v :: rest => display v :: displayItems rest

/-- The texts of the fields of an object. -/
def displayFields : Fields → List String
  | [] => []
  | (k, v) :: rest => (displayScalar k ++ ": " ++ display v) :: displayFields rest
end

/-- The items are displayed one by one. -/
theorem displayItems_eq_map (items : List Value) : displayItems items = items.map display := by
  induction items with
  | nil => rfl
  | cons v rest ih => simp [displayItems, ih]

/-- The text of a scalar: a string and a date stand for themselves. -/
def scalarText : Scalar → String
  | .str s => s
  | .date d => d.text
  | .moment m => m.text
  | s => displayScalar s

/-- The text of a value: a string stands for itself. -/
def text : Value → String
  | .scalar s => scalarText s
  | v => v.display

@[simp] theorem text_str (s : String) : text (.str s) = s := rfl

/-- The name of the kind of a value. -/
def kindName : Value → String
  | .null => "NoneType"
  | .bool _ => "bool"
  | .int _ => "int"
  | .float _ => "float"
  | .str _ => "str"
  | .scalar (.date _) => "date"
  | .scalar (.moment _) => "datetime"
  | .scalar (.bytes _) => "bytes"
  | .list _ => "list"
  | .object _ => "dict"

end Value

end ApiContract
