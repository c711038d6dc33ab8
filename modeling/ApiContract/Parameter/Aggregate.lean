import ApiContract.Failure.ContractError
import ApiContract.Schema.Judge
import ApiContract.Text.Case
import ApiContract.Value.Fields

/-!
# The schema of a parameter location

The parameters of one location are checked together, as the properties of one object: each parameter
contributes its schema under its name, and its name to the required ones when it is required.
-/

namespace ApiContract.Parameter

/-- How the names of a location are treated: whether letter case is left aside, and which names are
passed over, in any case. -/
structure Naming where
  caseInsensitive : Bool
  ignored : List String := []

/-- Is the name one of those that are passed over? -/
def Naming.ignores (naming : Naming) (name : String) : Bool :=
  naming.ignored.any fun other => Text.lower other == Text.lower name

/-- The name under which a parameter is checked; nothing when it is passed over. -/
def Naming.propertyName? (naming : Naming) (name : String) : Option String :=
  if naming.ignores name then none
  else some (if naming.caseInsensitive then Text.lower name else name)

/-- What has been gathered: the property schemas and the required names. -/
structure Gathered where
  properties : Fields := []
  required : List String := []

/-- Add the parameter with the given fields. -/
def Gathered.add (naming : Naming) (g : Gathered) (fields : Fields) : Gathered :=
  match (Value.lookup fields "name").bind Value.string? with
  | none => g
  | some name =>
    match naming.propertyName? name with
    | none => g
    | some key =>
      let properties := match Value.lookup fields "schema" with
        | some schema =>
          if schema.isObject || schema.isBool then Fields.set (.str key) schema g.properties
          else g.properties
        | none => g.properties
      let required :=
        if Value.truthy? (Value.lookup fields "required") && !g.required.contains key then
          g.required ++ [key]
        else g.required
      ⟨properties, required⟩

/-- Gather parameters in order; each has to be an object. -/
def gather (naming : Naming) (g : Gathered) : List Value → Except Failure Gathered
  | [] => .ok g
  | .object fields :: rest => gather naming (g.add naming fields) rest
  | _ :: _ => stop .wrongShape

/-- The object schema of what has been gathered. -/
def Gathered.schema (g : Gathered) : Value :=
  .object ([(.str "type", .str "object"), (.str "properties", .object g.properties)] ++
    if g.required.isEmpty then []
    else [(.str "required", .list (g.required.map fun name => .str name))])

/-- The schema of a location with the given parameters. -/
def aggregate (naming : Naming) (parameters : List Value) : Except Failure Value := do
  return (← gather naming {} parameters).schema

/-- The parts of a value that is to be a list of parameters. -/
def listed (parameters : Value) : Except Failure (List Value) :=
  match Schema.partsOf parameters with
  | .ok items => .ok items
  | .error f => stop f

end ApiContract.Parameter
