import ApiContract.Format.Network

/-!
# Resource identifiers

URIs and URI references by the grammar of RFC 3986, IRIs and IRI references by that of RFC 3987, and
URI templates by that of RFC 6570. A grammar of characters is a predicate on single characters with
percent-encoded triplets set aside.
-/

namespace ApiContract.Format

open Text (splitChars)

/-- What a grammar allows beyond ASCII: in every part, and in the query besides. -/
structure Alphabet where
  letter : Char → Bool
  privateUse : Char → Bool

/-- URIs are ASCII only. -/
def Alphabet.uri : Alphabet := ⟨fun _ => false, fun _ => false⟩

/-- IRIs admit most characters beyond ASCII, those for private use in the query. -/
def Alphabet.iri : Alphabet where
  letter c :=
    let n := c.toNat
    (0xA0 ≤ n && n ≤ 0xD7FF) || (0xF900 ≤ n && n ≤ 0xFDCF) || (0xFDF0 ≤ n && n ≤ 0xFFEF) ||
      (0x10000 ≤ n && n ≤ 0xEFFFD && n % 0x10000 ≤ 0xFFFD && !(0xE0000 ≤ n && n < 0xE1000))
  privateUse c :=
    let n := c.toNat
    (0xE000 ≤ n && n ≤ 0xF8FF) || (0xF0000 ≤ n && n ≤ 0x10FFFD && n % 0x10000 ≤ 0xFFFD)

/-- Does the list consist of allowed characters and percent-encoded triplets? -/
def encodedAll (ok : Char → Bool) : List Char → Bool
  | '%' :: a :: b :: rest => isHexDigit a && isHexDigit b && encodedAll ok rest
  | c :: rest => c != '%' && ok c && encodedAll ok rest
  | [] => true

namespace Alphabet

/-- The characters without a role of their own. -/
def unreserved (a : Alphabet) (c : Char) : Bool :=
  isAlphanumeric c || c ∈ ['-', '.', '_', '~'] || a.letter c

/-- The unreserved characters and the delimiters of sub-components. -/
def plain (a : Alphabet) (c : Char) : Bool :=
  a.unreserved c || c ∈ ['!', '$', '&', '\'', '(', ')', '*', '+', ',', ';', '=']

/-- The characters of a path segment. -/
def segment (a : Alphabet) (c : Char) : Bool := a.plain c || c == ':' || c == '@'

/-- The characters of a path. -/
def path (a : Alphabet) (c : Char) : Bool := a.segment c || c == '/'

/-- The characters of a fragment. -/
def fragment (a : Alphabet) (c : Char) : Bool := a.path c || c == '?'

/-- The characters of a query. -/
def query (a : Alphabet) (c : Char) : Bool := a.fragment c || a.privateUse c

end Alphabet

/-- The part before the first separator and, if there is one, the part behind it. -/
def cut (separator : Char) (cs : List Char) : List Char × Option (List Char) :=
  match cs.dropWhile (· != separator) with
  | _ :: rest => (cs.takeWhile (· != separator), some rest)
  | [] => (cs, none)

/-- Does the optional part, if it is there, satisfy the condition? -/
def optionalPart (ok : List Char → Bool) : Option (List Char) → Bool
  | none => true
  | some cs => ok cs

/-- An address literal of a later version than those known: a version, a dot and characters. -/
def isFutureAddress (cs : List Char) : Bool :=
  match cs with
  | v :: rest =>
    match cut '.' rest with
    | (version, some address) =>
      (v == 'v' || v == 'V') && !version.isEmpty && version.all isHexDigit && !address.isEmpty &&
        address.all fun c => Alphabet.uri.plain c || c == ':'
    | _ => false
  | [] => false

/-- A host and a port: a literal address in brackets, or a registered name, which may be empty. -/
def isHostPort (a : Alphabet) (cs : List Char) : Bool :=
  match cs with
  | '[' :: rest =>
    match cut ']' rest with
    | (address, some behind) =>
      (isIPv6Chars address || isFutureAddress address) &&
        (match behind with
          | [] => true
          | ':' :: port => port.all isDigit
          | _ => false)
    | _ => false
  | _ =>
    match cut ':' cs with
    | (host, port) => encodedAll a.plain host && optionalPart (·.all isDigit) port

/-- An authority: user information before an at sign, then a host and a port. -/
def isAuthority (a : Alphabet) (cs : List Char) : Bool :=
  match cut '@' cs with
  | (user, some rest) => encodedAll (fun c => a.plain c || c == ':') user && isHostPort a rest
  | (_, none) => isHostPort a cs

/-- An authority with a path, or a path alone. -/
def isHierarchy (a : Alphabet) : List Char → Bool
  | '/' :: '/' :: rest =>
    isAuthority a (rest.takeWhile (· != '/')) && encodedAll a.path (rest.dropWhile (· != '/'))
  | cs => encodedAll a.path cs

/-- A scheme starts with a letter. -/
def isScheme : List Char → Bool
  | [] => false
  | c :: rest =>
    c.isAlpha && rest.all fun d => isAlphanumeric d || d == '+' || d == '-' || d == '.'

/-- The part of a reference before its query and fragment, if those two are well-formed. -/
def mainPart? (a : Alphabet) (cs : List Char) : Option (List Char) :=
  let (front, fragment) := cut '#' cs
  let (main, query) := cut '?' front
  if optionalPart (encodedAll a.fragment) fragment && optionalPart (encodedAll a.query) query then
    some main
  else none

/-- A scheme, a colon and a hierarchy. -/
def isAbsolute (a : Alphabet) (main : List Char) : Bool :=
  match cut ':' main with
  | (scheme, some hierarchy) => isScheme scheme && isHierarchy a hierarchy
  | _ => false

/-- A reference without a scheme: its first path segment has no colon. -/
def isRelative (a : Alphabet) (main : List Char) : Bool :=
  isHierarchy a main &&
    (main.head? == some '/' || !(main.takeWhile (· != '/')).contains ':')

/-- Is the text an absolute identifier over the alphabet? -/
def isIdentifier (a : Alphabet) (s : String) : Bool :=
  match mainPart? a s.toList with
  | some main => isAbsolute a main
  | none => false

/-- Is the text an absolute or a relative reference over the alphabet? -/
def isReference (a : Alphabet) (s : String) : Bool :=
  match mainPart? a s.toList with
  | some main => isAbsolute a main || isRelative a main
  | none => false

/-! ## Templates -/

/-- A variable name: letters, digits, underscores and percent-encoded triplets, with single dots
between them. -/
def isVariableName (cs : List Char) : Bool :=
  (splitChars '.' cs).all fun part =>
    !part.isEmpty && encodedAll (fun c => isAlphanumeric c || c == '_') part

/-- A variable with an optional length of at most four digits, or an asterisk. -/
def isVariable (cs : List Char) : Bool :=
  match cut ':' cs with
  | (name, some length) =>
    isVariableName name && !length.isEmpty && length.length ≤ 4 && length.all isDigit &&
      length.head? != some '0'
  | (_, none) => isVariableName (if cs.getLast? == some '*' then cs.dropLast else cs)

/-- An expression: variables between commas, behind an operator or none. -/
def isExpression (cs : List Char) : Bool :=
  let names := match cs with
    | c :: rest => if c ∈ ['+', '#', '.', '/', ';', '?', '&'] then rest else cs
    | [] => cs
  (splitChars ',' names).all isVariable

/-- Are all braces paired around expressions? `inside` holds the expression read so far, in
reverse. -/
def bracesOk : Option (List Char) → List Char → Bool
  | none, [] => true
  | some _, [] => false
  | none, c :: rest =>
    if c == '\x7b' then bracesOk (some []) rest
    else if c == '\x7d' then false
    else bracesOk none rest
  | some inside, c :: rest =>
    if c == '\x7d' then isExpression inside.reverse && bracesOk none rest
    else if c == '\x7b' then false
    else bracesOk (some (c :: inside)) rest

/-- Is the text a URI template? -/
def isTemplate (s : String) : Bool := bracesOk none s.toList

end ApiContract.Format
