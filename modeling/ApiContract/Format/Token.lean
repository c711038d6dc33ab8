import ApiContract.Number.Decimal

/-!
# Short texts of fixed form

Universally unique identifiers, colours of style sheets, and bytes in base 64.
-/

namespace ApiContract.Format

/-- The text without the occurrences of `word`. -/
def without (word s : String) : String := String.join (s.splitOn word)

/-- Is the text 32 hexadecimal digits with hyphens in the four usual places? Further hyphens and a
wrapping of braces do not count as digits. -/
def isUuid (s : String) : Bool :=
  let bare := (without "uuid:" (without "urn:" s)).toList
  let brace (c : Char) : Bool := c == '\x7b' || c == '\x7d'
  let inner := bare.dropWhile brace
  let hex := ((inner.reverse.dropWhile brace).reverse).filter (· != '-')
  let cs := s.toList.toArray
  hex.length == 32 && hex.all isHexDigit && [8, 13, 18, 23].all fun i => cs[i]? == some '-'

/-- The colour names of style sheets. -/
def colorNames : List String :=
  ["aliceblue", "antiquewhite", "aqua", "aquamarine", "azure", "beige", "bisque", "black",
    "blanchedalmond", "blue", "blueviolet", "brown", "burlywood", "cadetblue", "chartreuse",
    "chocolate", "coral", "cornflowerblue", "cornsilk", "crimson", "cyan", "darkblue", "darkcyan",
    "darkgoldenrod", "darkgray", "darkgreen", "darkgrey", "darkkhaki", "darkmagenta",
    "darkolivegreen", "darkorange", "darkorchid", "darkred", "darksalmon", "darkseagreen",
    "darkslateblue", "darkslategray", "darkslategrey", "darkturquoise", "darkviolet", "deeppink",
    "deepskyblue", "dimgray", "dimgrey", "dodgerblue", "firebrick", "floralwhite", "forestgreen",
    "fuchsia", "gainsboro", "ghostwhite", "gold", "goldenrod", "gray", "green", "greenyellow",
    "grey", "honeydew", "hotpink", "indianred", "indigo", "ivory", "khaki", "lavender",
    "lavenderblush", "lawngreen", "lemonchiffon", "lightblue", "lightcoral", "lightcyan",
    "lightgoldenrodyellow", "lightgray", "lightgreen", "lightgrey", "lightpink", "lightsalmon",
    "lightseagreen", "lightskyblue", "lightslategray", "lightslategrey", "lightsteelblue",
    "lightyellow", "lime", "limegreen", "linen", "magenta", "maroon", "mediumaquamarine",
    "mediumblue", "mediumorchid", "mediumpurple", "mediumseagreen", "mediumslateblue",
    "mediumspringgreen", "mediumturquoise", "mediumvioletred", "midnightblue", "mintcream",
    "mistyrose", "moccasin", "navajowhite", "navy", "oldlace", "olive", "olivedrab", "orange",
    "orangered", "orchid", "palegoldenrod", "palegreen", "paleturquoise", "palevioletred",
    "papayawhip", "peachpuff", "peru", "pink", "plum", "powderblue", "purple", "red", "rosybrown",
    "royalblue", "saddlebrown", "salmon", "sandybrown", "seagreen", "seashell", "sienna", "silver",
    "skyblue", "slateblue", "slategray", "slategrey", "snow", "springgreen", "steelblue", "tan",
    "teal", "thistle", "tomato", "turquoise", "violet", "wheat", "white", "whitesmoke", "yellow",
    "yellowgreen"]

/-- Is the text a colour name, or a hash sign with three or six hexadecimal digits? -/
def isColor (s : String) : Bool :=
  colorNames.contains (String.ofList (s.toList.map Char.toLower)) ||
    (match s.toList with
      | '#' :: digits => (digits.length == 3 || digits.length == 6) && digits.all isHexDigit
      | _ => false)

/-- The six bits that a character of base 64 stands for. -/
def sextet? (c : Char) : Option Nat :=
  if 'A' ≤ c && c ≤ 'Z' then some (c.toNat - 'A'.toNat)
  else if 'a' ≤ c && c ≤ 'z' then some (c.toNat - 'a'.toNat + 26)
  else if isDigit c then some (digitValue c + 52)
  else if c == '+' then some 62
  else if c == '/' then some 63
  else none

/-- Is the list groups of four characters of base 64, the last of which may be padded? The bits that
padding leaves over are zero. -/
def isBase64Chars : List Char → Bool
  | [] => true
  | [a, b, '=', '='] => (sextet? a).isSome && (sextet? b).any (· % 16 == 0)
  | [a, b, c, '='] => (sextet? a).isSome && (sextet? b).isSome && (sextet? c).any (· % 4 == 0)
  | a :: b :: c :: d :: rest =>
    [a, b, c, d].all (fun x => (sextet? x).isSome) && isBase64Chars rest
  | _ => false

/-- Is the text bytes in base 64? -/
def isBase64 (s : String) : Bool := isBase64Chars s.toList

end ApiContract.Format
