import ApiContract.Value.Fields
import ApiContract.Yaml.Node.Reader
import ApiContract.Yaml.Scalar.Content
import ApiContract.Yaml.Token.Lexer

/-!
# What nodes stand for

A node stands for a value, or has faults: a scalar that its tag does not fit, a key that is no scalar,
a merge of something that is no mapping, or a tag without a meaning. Of several faults the one least
deep in the tree counts, and of those the first.

A merge key puts the pairs of other mappings in front of the pairs of its own mapping, where a later
pair with the same key replaces their values. Of several mappings in a list an earlier one wins.
-/

namespace ApiContract.Yaml

/-- The value that a node stands for, and the faults in the node with their depth. -/
structure Content where
  value : Value
  faults : List (Nat × Fault) := []

namespace Content

/-- A node that is nothing but a fault, at a depth. -/
def faulty (depth : Nat) (fault : Fault) : Content := ⟨.null, [(depth, fault)]⟩

/-- The faults of a part of a node, as faults of the node. -/
def below (c : Content) : List (Nat × Fault) := c.faults.map fun p => (p.1 + 1, p.2)

/-- The fault that counts: the first one of those that are least deep. -/
def fault? (c : Content) : Option Fault :=
  (c.faults.foldl (fun best p => match best with
    | some b => if p.1 < b.1 then some p else some b
    | none => some p) none).map Prod.snd

end Content

/-- A pair of a mapping. -/
structure Pair where
  key : Except Fault Scalar
  value : Content

namespace Pair

/-- The faults of a pair as faults of its mapping; behind a key that is none nothing counts. -/
def faults (p : Pair) : List (Nat × Fault) :=
  match p.key with
  | .error f => [(1, f)]
  | .ok _ => p.value.below

/-- The field that a pair stands for. -/
def field? (p : Pair) : Option (Scalar × Value) :=
  match p.key with
  | .error _ => none
  | .ok k => some (k, p.value.value)

end Pair

namespace Node

/-- The text of a node that a tag makes a scalar. A mapping has the text of the node that stands for
it as a whole. -/
def scalarText? : Node → Option String
  | .scalar _ text => some text
  | .sequence .. => none
  | .mapping _ pairs => textOf pairs
where
  textOf : List (Node × Node) → Option String
    | [] => none
    | (k, v) :: rest => if k.tag == .value then scalarText? v else textOf rest

/-- The scalar that a key stands for. -/
def keyScalar (k : Node) : Except Fault Scalar :=
  match k with
  | .scalar tag text => readScalar (if tag == .value then .str else tag) text
  | .sequence tag _ => collectionKey tag
  | .mapping tag _ => collectionKey tag
where
  /-- A list or a mapping is a key only where its tag makes a scalar of it. -/
  collectionKey (tag : Tag) : Except Fault Scalar :=
    match tag with
    | .seq | .map => .error .malformedYaml
    | tag => match k.scalarText? with
      | some text => readScalar tag text
      | none => .error .malformedYaml

/-- The content of a list with the given items. -/
def listContent (items : List Content) : Content :=
  ⟨.list (items.map (·.value)), items.flatMap (·.below)⟩

/-- The content of a mapping with the given pairs. -/
def mappingContent (pairs : Except Fault (List Pair)) : Content :=
  match pairs with
  | .error f => .faulty 1 f
  | .ok pairs => ⟨.object (Fields.ofPairs (pairs.filterMap Pair.field?)), pairs.flatMap Pair.faults⟩

/-- The content of a node that its tag makes a scalar. -/
def scalarContent (tag : Tag) (text : Option String) : Content :=
  match text with
  | none => .faulty 0 .malformedYaml
  | some text =>
    match readScalar tag text with
    | .ok s => ⟨.scalar s, []⟩
    | .error f => .faulty 0 f

mutual
/-- The content of a node. -/
def content : Node → Content
  | .scalar tag text =>
    if tag == .seq || tag == .map then .faulty 1 .malformedYaml else scalarContent tag (some text)
  | .sequence tag items =>
    match tag with
    | .seq => listContent (contents items)
    | .map => .faulty 1 .malformedYaml
    | tag => scalarContent tag none
  | .mapping tag pairs =>
    match tag with
    | .map => mappingContent (mergedPairs pairs)
    | .seq => .faulty 1 .malformedYaml
    | tag => scalarContent tag (scalarText?.textOf pairs)

/-- The contents of several nodes. -/
def contents : List Node → List Content
  | [] => []
  | n :: rest => content n :: contents rest

/-- The pairs of a mapping, with those that it merges in front. -/
def mergedPairs (pairs : List (Node × Node)) : Except Fault (List Pair) := do
  let (merged, own) ← splitPairs pairs
  return merged ++ own

/-- The pairs that a mapping merges, and its own. -/
def splitPairs : List (Node × Node) → Except Fault (List Pair × List Pair)
  | [] => .ok ([], [])
  | (k, v) :: rest => do
    if k.tag == .merge then
      let front ← match v with
        | .mapping _ pairs => mergedPairs pairs
        | .sequence _ items => mergedItems items
        | .scalar .. => .error .malformedYaml
      let (merged, own) ← splitPairs rest
      return (front ++ merged, own)
    else
      let pair : Pair := ⟨k.keyScalar, content v⟩
      let (merged, own) ← splitPairs rest
      return (merged, pair :: own)

/-- The pairs of all mappings in a list, the last mapping first. -/
def mergedItems : List Node → Except Fault (List Pair)
  | [] => .ok []
  | n :: rest => do
    let pairs ← match n with
      | .mapping _ pairs => mergedPairs pairs
      | _ => .error .malformedYaml
    return (← mergedItems rest) ++ pairs
end

/-- The value that a node stands for. -/
def toValue (n : Node) : Except Fault Value :=
  match n.content.fault? with
  | some f => .error f
  | none => .ok n.content.value

end Node

/-- The value that a text stands for. -/
def read (text : String) : Except Fault Value :=
  match (tokens? text).bind Node.ofTokens? with
  | some n => n.toValue
  | none => .error .malformedYaml

end ApiContract.Yaml
