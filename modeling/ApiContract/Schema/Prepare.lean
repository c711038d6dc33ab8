import ApiContract.Direction
import ApiContract.Failure.Fault
import ApiContract.Schema.Keyword

/-!
# Preparing a schema

Before a schema is checked in a direction, a copy of it is made in which discriminators are left out
and the properties hidden in that direction are no longer required. A property is hidden where a
schema declares it with the flag set to true; it is then not required by that schema, by the branches
of its `allOf`, nor by theirs. Everything else is copied as it stands, in its order.
-/

namespace ApiContract.Schema

/-- Is the flag of a property's schema set to true? -/
def isFlagged (flag : Visibility) (property : Value) : Bool :=
  property.member? flag.keyword == some (.bool true)

/-- The names of the flagged properties in an object of property schemas. -/
def flaggedNames (flag : Visibility) (properties : Fields) : List String :=
  properties.filterMap fun
    | (.str name, property) => if isFlagged flag property then some name else none
    | _ => none

/-- The names of the properties that a schema declares and hides. -/
def hiddenNames (flag : Visibility) (schema : Value) : List String :=
  match schema.member? "properties" with
  | some (.object properties) => flaggedNames flag properties
  | _ => []

/-- The names hidden in the branches of an `allOf`, each looked at by itself. -/
def hiddenInBranches (flag : Visibility) (fields : Fields) : List String :=
  match Value.lookup fields "allOf" with
  | some (.list branches) => branches.flatMap (hiddenNames flag)
  | _ => []

/-- All names that a schema does not require: those hidden around it, in it and in its branches. -/
def hiddenAt (flag : Visibility) (inherited : List String) (fields : Fields) : List String :=
  inherited ++ hiddenNames flag (.object fields) ++ hiddenInBranches flag fields

/-- Is the name one of the hidden ones? A list or an object cannot be asked about. -/
def isHidden (hidden : List String) : Value → Except Fault Bool
  | .str name => .ok (hidden.contains name)
  | .scalar _ => .ok false
  | _ => .error .wrongShape

/-- The required names that are not hidden. -/
def visibleNames (hidden : List String) : List Value → Except Fault (List Value)
  | [] => .ok []
  | name :: rest => do
    let drop ← isHidden hidden name
    let kept ← visibleNames hidden rest
    return if drop then kept else name :: kept

mutual
/-- A schema prepared for a direction in which `flag` hides properties; the names in `inherited` are
hidden by the schemas of which it is a branch. -/
def prepare (flag : Visibility) (inherited : List String) : Value → Except Fault Value
  | .object fields => do
    return .object (← prepareFields flag (hiddenAt flag inherited fields) fields)
  | v => .ok v

/-- The fields of a schema, whose hidden names are known. -/
def prepareFields (flag : Visibility) (hidden : List String) : Fields → Except Fault Fields
  | [] => .ok []
  | (key, v) :: rest => do
    if key = .str "discriminator" then prepareFields flag hidden rest
    else
      let v ← prepareField flag hidden key v
      return (key, v) :: (← prepareFields flag hidden rest)

/-- What stands under a key of a schema. -/
def prepareField (flag : Visibility) (hidden : List String) (key : Scalar) :
    Value → Except Fault Value
  | .list items =>
    if key = .str "required" then do return .list (← visibleNames hidden items)
    else if key = .str "allOf" then do return .list (← prepareItems flag hidden items)
    else
      match Place.ofKey key with
      | .schemaList | .schema => do return .list (← prepareItems flag [] items)
      | _ => .ok (.list items)
  | .object fields =>
    match Place.ofKey key with
    | .schemaMap => do return .object (← prepareMembers flag fields)
    | .schema => do return .object (← prepareFields flag (hiddenAt flag [] fields) fields)
    | _ => .ok (.object fields)
  | v => .ok v

/-- Schemas in a list. -/
def prepareItems (flag : Visibility) (inherited : List String) :
    List Value → Except Fault (List Value)
  | [] => .ok []
  | v :: rest => do
    let v ← prepare flag inherited v
    return v :: (← prepareItems flag inherited rest)

/-- Schemas that are the members of an object. -/
def prepareMembers (flag : Visibility) : Fields → Except Fault Fields
  | [] => .ok []
  | (key, v) :: rest => do
    let v ← prepare flag [] v
    return (key, v) :: (← prepareMembers flag rest)
end

/-- A schema prepared for a direction. -/
def preparedFor (direction : Direction) (schema : Value) : Except Fault Value :=
  prepare (Visibility.hiddenIn direction) [] schema

end ApiContract.Schema
