import ApiContract.Yaml.Node.Implicit
import ApiContract.Yaml.Token.Basic

/-!
# From tokens to nodes

A text is one document: directives and a separator, which may be missing, then a node, then marks of
the document's end. Where a node may stand and none does, it is null. The entries of a list may stand
as deep as the key that the list belongs to.
-/

namespace ApiContract.Yaml

/-- What is left to read, and the names given so far. -/
structure NodeReader where
  tokens : List Token
  /-- The nodes with names; a name without a node belongs to one that is still being read. -/
  anchors : List (String × Option Node) := []
  /-- What the handles of tags stand for. -/
  handles : List (String × String) := []

namespace NodeReader

/-- Reading takes tokens away, or fails. -/
abbrev Read (α : Type) := StateT NodeReader Option α

/-- The next token. -/
def peek : Read (Option Token) := return (← get).tokens.head?

/-- Take the next token away. -/
def skip : Read Unit := modify fun s => { s with tokens := s.tokens.drop 1 }

/-- Take the next token away if it is the given one. -/
def accept (t : Token) : Read Bool := do
  if (← peek) == some t then
    skip
    return true
  else return false

/-- Take the given token away; it has to be there. -/
def expect (t : Token) : Read Unit := do
  if !(← accept t) then failure

/-- Is the next token one of some? -/
def isAt (ts : List Token) : Read Bool := return (← peek).any ts.contains

/-- The name in front of a node, if there is one. -/
def anchor? : Read (Option String) := do
  match ← peek with
  | some (.anchor name) =>
    skip
    return some name
  | _ => return none

/-- The text of the tag in front of a node, if there is one. -/
def tag? : Read (Option String) := do
  match ← peek with
  | some (.tag handle suffix) =>
    skip
    match handle with
    | none => return some suffix
    | some handle =>
      match (← get).handles.lookup handle with
      | some start => return some (start ++ suffix)
      | none => failure
  | _ => return none

/-- The name and the tag in front of a node, which stand in either order. -/
def properties : Read (Option String × Option String) := do
  match ← anchor? with
  | some name => return (some name, ← tag?)
  | none =>
    let tag ← tag?
    if tag.isSome then return (← anchor?, tag) else return (none, none)

/-- Note the name of a node that is about to be read; a name is given once only. -/
def openAnchor (name : Option String) : Read Unit := do
  match name with
  | some name =>
    if ((← get).anchors.lookup name).isSome then failure
    modify fun s => { s with anchors := (name, none) :: s.anchors }
  | none => return ()

/-- Note the node that a name belongs to. -/
def closeAnchor (name : Option String) (node : Node) : Read Node := do
  match name with
  | some name => modify fun s => { s with anchors := (name, some node) :: s.anchors }
  | none => pure ()
  return node

/-- The node that an alias refers to. -/
def referred (name : String) : Read Node := do
  match (← get).anchors.lookup name with
  | some (some node) => return node
  | _ => failure

/-- A scalar. Without a tag a plain one is what it is spelled like, and a quoted one is a text; the
tag of a lone exclamation mark asks for the spelling. -/
def scalarNode (tag : Option String) (text : String) (plain : Bool) : Node :=
  match tag with
  | none => .scalar (if plain then .ofPlain text else .str) text
  | some "!" => .scalar (.ofPlain text) text
  | some t => .scalar (.ofText t) text

/-- The tag of a list or a mapping. -/
def collectionTag (tag : Option String) (usual : Tag) : Tag :=
  match tag with
  | none => usual
  | some "!" => usual
  | some t => .ofText t

/-- The node that stands for nothing. -/
def emptyNode : Node := .scalar .null ""

/-- A node without content, which has to have a name or a tag. -/
def bare (name tag : Option String) : Read Node :=
  if name.isSome || tag.isSome then return scalarNode tag "" true else failure

/-- Where a node may stand. -/
inductive Place
  /-- Inside brackets. -/
  | flow
  /-- In a block. -/
  | block
  /-- In a block as a key or its value, where a list need not be indented. -/
  | pair
  deriving DecidableEq

mutual
/-- The node at a place. -/
def node (place : Place) : Nat → Read Node
  | 0 => failure
  | fuel + 1 => do
    if let some (.alias name) ← peek then
      skip
      return ← referred name
    let (name, tag) ← properties
    openAnchor name
    let n ←
      match ← peek with
      | some (.scalar text plain) =>
        skip
        pure (scalarNode tag text plain)
      | some .flowSequenceStart =>
        skip
        let items ← flowItems true fuel
        pure (.sequence (collectionTag tag .seq) items)
      | some .flowMappingStart =>
        skip
        let pairs ← flowPairs true fuel
        pure (.mapping (collectionTag tag .map) pairs)
      | some .blockEntry =>
        -- A list as deep as its key has no start mark of its own.
        if place == .pair then
          let items ← entries [.blockEntry, .key, .value, .blockEnd] fuel
          pure (.sequence (collectionTag tag .seq) items)
        else bare name tag
      | some .blockSequenceStart =>
        if place == .flow then bare name tag
        else
          skip
          let items ← entries [.blockEntry, .blockEnd] fuel
          expect .blockEnd
          pure (.sequence (collectionTag tag .seq) items)
      | some .blockMappingStart =>
        if place == .flow then bare name tag
        else
          skip
          let pairs ← blockPairs fuel
          expect .blockEnd
          pure (.mapping (collectionTag tag .map) pairs)
      | _ => bare name tag
    closeAnchor name n

/-- The node at a place, or the empty node before one of some tokens. -/
def nodeBefore (stops : List Token) (place : Place) : Nat → Read Node
  | 0 => failure
  | fuel + 1 => do
    if ← isAt stops then return emptyNode else node place fuel

/-- The entries of a list in a block; an entry is empty before one of some tokens. -/
def entries (stops : List Token) : Nat → Read (List Node)
  | 0 => failure
  | fuel + 1 => do
    if ← accept .blockEntry then
      let item ← nodeBefore stops .block fuel
      return item :: (← entries stops fuel)
    else return []

/-- The value behind a key, if there is one. -/
def valueBefore (stops : List Token) (place : Place) : Nat → Read Node
  | 0 => failure
  | fuel + 1 => do
    if ← accept .value then nodeBefore stops place fuel else return emptyNode

/-- The pairs of a mapping in a block. -/
def blockPairs : Nat → Read (List (Node × Node))
  | 0 => failure
  | fuel + 1 => do
    if ← accept .key then
      let k ← nodeBefore [.key, .value, .blockEnd] .pair fuel
      let v ← valueBefore [.key, .value, .blockEnd] .pair fuel
      return (k, v) :: (← blockPairs fuel)
    else return []

/-- The items of a list in brackets, with the closing bracket. A pair without brackets of its own is a
mapping. -/
def flowItems (first : Bool) : Nat → Read (List Node)
  | 0 => failure
  | fuel + 1 => do
    if ← accept .flowSequenceEnd then return []
    if !first then expect .flowEntry
    if ← accept .key then
      let k ← nodeBefore [.value, .flowEntry, .flowSequenceEnd] .flow fuel
      let v ← valueBefore [.flowEntry, .flowSequenceEnd] .flow fuel
      return .mapping .map [(k, v)] :: (← flowItems false fuel)
    else if ← accept .flowSequenceEnd then return []
    else
      let item ← node .flow fuel
      return item :: (← flowItems false fuel)

/-- The pairs of a mapping in brackets, with the closing bracket. A node alone is a key without a
value. -/
def flowPairs (first : Bool) : Nat → Read (List (Node × Node))
  | 0 => failure
  | fuel + 1 => do
    if ← accept .flowMappingEnd then return []
    if !first then expect .flowEntry
    if ← accept .key then
      let k ← nodeBefore [.value, .flowEntry, .flowMappingEnd] .flow fuel
      let v ← valueBefore [.flowEntry, .flowMappingEnd] .flow fuel
      return (k, v) :: (← flowPairs false fuel)
    else if ← accept .flowMappingEnd then return []
    else
      let k ← node .flow fuel
      return (k, emptyNode) :: (← flowPairs false fuel)
end

/-! ## Documents -/

/-- The handles that stand for something without a directive. -/
def usualHandles : List (String × String) := [("!", "!"), ("!!", Tag.family)]

/-- Read the directives in front of a document; `versioned` says whether one gave the version. -/
def directives (versioned : Bool) : Nat → Read Unit
  | 0 => failure
  | fuel + 1 => do
    match ← peek with
    | some (.versionDirective major) =>
      if versioned || major != 1 then failure
      skip
      directives true fuel
    | some (.tagDirective handle target) =>
      if ((← get).handles.lookup handle).isSome then failure
      skip
      modify fun s => { s with handles := s.handles ++ [(handle, target)] }
      directives versioned fuel
    | some .otherDirective =>
      skip
      directives versioned fuel
    | _ => return ()

/-- Is the token a directive? -/
def isDirective : Token → Bool
  | .versionDirective _ => true
  | .tagDirective .. => true
  | .otherDirective => true
  | _ => false

/-- Skip marks of a document's end. -/
def skipEnds : Nat → Read Unit
  | 0 => return ()
  | fuel + 1 => do if ← accept .documentEnd then skipEnds fuel

/-- The node of a text's only document; an empty text stands for null. -/
def document (fuel : Nat) : Read Node := do
  if (← peek).isNone then return emptyNode
  let n ←
    if (← peek).any fun t => isDirective t || t == .documentStart then do
      directives false fuel
      modify fun s => { s with handles := s.handles ++ usualHandles }
      expect .documentStart
      let next ← peek
      if next.all fun t => isDirective t || t == .documentStart || t == .documentEnd then
        pure emptyNode
      else node .block fuel
    else do
      modify fun s => { s with handles := usualHandles }
      node .block fuel
  skipEnds fuel
  if (← peek).isSome then failure
  return n

end NodeReader

/-- The node that tokens make up; nothing when they make up no document. No step of the reading needs
more than three calls for a token. -/
def Node.ofTokens? (tokens : List Token) : Option Node :=
  (NodeReader.document (3 * tokens.length + 10)).run' { tokens := tokens }

end ApiContract.Yaml
