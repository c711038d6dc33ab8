import ApiContract.Text.CaseTables

/-!
# Letter case

Lower and upper case of a text by the full case mappings: a character may become several, and a
capital sigma becomes the final form at the end of a word.
-/

namespace ApiContract.Text

/-- The image of a code point under a run, if the run reaches it. -/
def CaseRun.image? (r : CaseRun) (n : Nat) : Option Nat :=
  if r.first ≤ n && n ≤ r.last && (n - r.first) % r.step == 0 then some ((n : Int) + r.offset).toNat
  else none

/-- The image of a character under the first run that reaches it, or the character itself. -/
def applyRuns (runs : Array CaseRun) (c : Char) : Char :=
  match runs.findSome? (·.image? c.toNat) with
  | some n => Char.ofNat n
  | none => c

/-- The lower case of a character, when it is a single character. -/
def lowerSimple (c : Char) : Char :=
  if c.toNat < 0x80 then c.toLower
  else if c == 'İ' then 'i'
  else applyRuns lowerRuns c

/-- The characters whose lower case is the given character. -/
def lowerSources (c : Char) : List Char :=
  let images := lowerRuns.toList.map fun r => Char.ofNat ((c.toNat : Int) - r.offset).toNat
  ([c, c.toUpper, 'İ'] ++ images).filter (lowerSimple · == c)

/-- The lower case of a character outside of any context. -/
def lowerChar (c : Char) : List Char :=
  if c == 'İ' then ['i', Char.ofNat 0x307] else [lowerSimple c]

/-- The upper case of a character. -/
def upperChar (c : Char) : List Char :=
  if c.toNat < 0x80 then [c.toUpper]
  else
    match upperSequences.find? (·.1 == c.toNat) with
    | some (_, ns) => ns.map Char.ofNat
    | none => [applyRuns upperRuns c]

/-- Is the first character that counts a cased one? -/
def startsCased (cs : List Char) : Bool :=
  match cs.dropWhile (fun c => caseIgnorableRanges.contains c.toNat) with
  | [] => false
  | c :: _ => casedRanges.contains c.toNat

/-- The lower case of a list of characters; `before` holds what precedes it, nearest first. A
capital sigma that ends a word becomes the final sigma. -/
def lowerFrom (before : List Char) : List Char → List Char
  | [] => []
  | c :: rest =>
    (if c == 'Σ' then [if startsCased before && !startsCased rest then 'ς' else 'σ'] else lowerChar c) ++
      lowerFrom (c :: before) rest

/-- The text in lower case. -/
def lower (s : String) : String := String.ofList (lowerFrom [] s.toList)

/-- The text in upper case. -/
def upper (s : String) : String := String.ofList (s.toList.flatMap upperChar)

end ApiContract.Text
