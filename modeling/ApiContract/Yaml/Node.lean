/-!
# Nodes

A YAML text stands for a tree of nodes. Each node has a tag that says what kind of value it is;
aliases are gone, each being the node that it refers to.
-/

namespace ApiContract.Yaml

/-- What kind of value a node is. -/
inductive Tag
  | null
  | bool
  | int
  | float
  | timestamp
  | binary
  | str
  | seq
  | map
  /-- The key that merges other mappings into its own. -/
  | merge
  /-- The key that stands for the value of a mapping as a whole. -/
  | value
  /-- A tag without a meaning here. -/
  | other
  deriving DecidableEq, Repr

namespace Tag

/-- What the tags with a meaning start with. -/
def family : String := "tag:yaml.org,2002:"

/-- The tag that a text names in full. -/
def ofText (text : String) : Tag :=
  if text.startsWith family then
    match (text.drop family.length).toString with
    | "null" => .null
    | "bool" => .bool
    | "int" => .int
    | "float" => .float
    | "timestamp" => .timestamp
    | "binary" => .binary
    | "str" => .str
    | "seq" => .seq
    | "map" => .map
    | "merge" => .merge
    | "value" => .value
    | _ => .other
  else .other

end Tag

/-- A node with its tag. -/
inductive Node
  | scalar (tag : Tag) (text : String)
  | sequence (tag : Tag) (items : List Node)
  | mapping (tag : Tag) (pairs : List (Node × Node))
  deriving Repr

namespace Node

/-- The tag of a node. -/
def tag : Node → Tag
  | .scalar t _ => t
  | .sequence t _ => t
  | .mapping t _ => t

end Node

end ApiContract.Yaml
