import ApiContract.Number.Decimal
import ApiContract.Text.Split
import ApiContract.Text.Word

/-!
# Addresses and host names

IPv4 addresses in dotted decimals, IPv6 addresses in the text forms of RFC 4291, and host names as
labels between dots.
-/

namespace ApiContract.Format

open Text (splitChars)

/-- An octet in decimal, without a leading zero. -/
def isOctet (cs : List Char) : Bool :=
  !cs.isEmpty && cs.length ≤ 3 && cs.all isDigit && natOfDigits cs < 256 &&
    (cs.length == 1 || cs.head? != some '0')

/-- Four octets between dots. -/
def isIPv4Chars (cs : List Char) : Bool :=
  let parts := splitChars '.' cs
  parts.length == 4 && parts.all isOctet

/-- Is the text an IPv4 address? -/
def isIPv4 (s : String) : Bool := isIPv4Chars s.toList

/-- One to four hexadecimal digits. -/
def isHextet (cs : List Char) : Bool := !cs.isEmpty && cs.length ≤ 4 && cs.all isHexDigit

/-- The groups of an IPv6 address; an IPv4 address at the end stands for two groups. -/
def addressGroups? (cs : List Char) : Option (List (List Char)) :=
  let parts := splitChars ':' cs
  match parts.getLast? with
  | some last =>
    if last.contains '.' then
      if isIPv4Chars last then some (parts.dropLast ++ [['0'], ['0']]) else none
    else some parts
  | none => none

/-- The groups on either side of the one gap, which is written as an empty group that is neither
first nor last. A gap at an end leaves one more empty group there. -/
def sidesOfGap? (groups : List (List Char)) : Option (List (List Char) × List (List Char)) :=
  let inner := (groups.drop 1).dropLast
  if (inner.filter List.isEmpty).length == 1 then
    let before := groups.take 1 ++ inner.takeWhile (!·.isEmpty)
    let behind := groups.drop (before.length + 1)
    some (if before == [[]] then [] else before, if behind == [[]] then [] else behind)
  else none

/-- Is the list of characters an IPv6 address? Eight groups, or fewer around a gap. -/
def isIPv6Chars (cs : List Char) : Bool :=
  match addressGroups? cs with
  | none => false
  | some groups =>
    if 3 ≤ groups.length && ((groups.drop 1).dropLast.any List.isEmpty) then
      match sidesOfGap? groups with
      | some (before, behind) =>
        before.length + behind.length ≤ 7 && before.all isHextet && behind.all isHextet
      | none => false
    else groups.length == 8 && groups.all isHextet

/-- Is the text an IPv6 address without a zone? -/
def isIPv6 (s : String) : Bool := isIPv6Chars s.toList

/-- Is the character an ASCII letter or digit? -/
def isAlphanumeric (c : Char) : Bool := c.isAlphanum

/-- A label: letters, digits and inner hyphens, at most 63 of them. -/
def isLabel (letter : Char → Bool) (cs : List Char) : Bool :=
  !cs.isEmpty && cs.length ≤ 63 && cs.all (fun c => letter c || c == '-') &&
    cs.head? != some '-' && cs.getLast? != some '-'

/-- A text without one dot at its end. -/
def withoutFinalDot (cs : List Char) : List Char :=
  if cs.getLast? == some '.' then cs.dropLast else cs

/-- Is the text a host name of at most 253 characters? A final dot does not count. -/
def isHostname (s : String) : Bool :=
  let cs := withoutFinalDot s.toList
  cs.length ≤ 253 && (splitChars '.' cs).all (isLabel isAlphanumeric)

/-- Is the text a host name whose labels may hold letters of any script? Two hyphens in third and
fourth place are reserved. -/
def isInternationalHostname (s : String) : Bool :=
  let cs := withoutFinalDot s.toList
  cs.length ≤ 253 && (splitChars '.' cs).all fun label =>
    isLabel (fun c => isAlphanumeric c || (0x80 ≤ c.toNat && Text.isWord c)) label &&
      (label.drop 2).take 2 != ['-', '-']

end ApiContract.Format
