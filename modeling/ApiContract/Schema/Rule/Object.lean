import ApiContract.Schema.Rule.Scalar

/-!
# Rules about objects

The number of properties, the properties that have to be there, and the schemas of properties by
name, by pattern, and of all others.
-/

namespace ApiContract.Schema.Rule

/-- `minProperties` and `maxProperties`. -/
def objectSize (bound : Bound) (limit v : Value) : Outcome :=
  match v with
  | .object fields => sizeBound bound fields.length limit (.objectSize bound v limit)
  | _ => .valid

/-- `required`: each name is a property. -/
def required (names v : Value) : Outcome :=
  match v with
  | .object fields =>
    .ofResult do
      return .each (fun name => .ofResult do
        return .require (← isPropertyOf fields name) (.missing name)) (← partsOf names)
  | _ => .valid

/-- The properties of an object whose names are texts, with their values. -/
def namedFields (fields : Fields) : List (String × Value) :=
  fields.filterMap fun
    | (.str name, v) => some (name, v)
    | _ => none

/-- The schema of one property, if the property is there. -/
def property (judge : Judge) (fields : Fields) (entry : Scalar × Value) : Outcome :=
  match entry with
  | (.str name, schema) =>
    match Value.lookup fields name with
    | some v => judge.applyAt (.member name) schema v
    | none => .valid
  | _ => .valid

/-- The schema of one property in the third draft, where it may also say that the property has to be
there. What is missing is reported as if it stood in a property `required`. -/
def propertyOrMissing (judge : Judge) (fields : Fields) (entry : Scalar × Value) : Outcome :=
  match fields.lookup entry.1 with
  | some _ => property judge fields entry
  | none =>
    .ofResult do
      let required := Value.lookup (← membersOf entry.2) "required"
      return (Outcome.require (!Value.truthy? required) (.missing (.scalar entry.1))).under
        (.member "required")

/-- `properties`: the schemas of properties by name. -/
def properties (ctx : Context) (judge : Judge) (schemas v : Value) : Outcome :=
  match v with
  | .object fields =>
    .ofResult do
      let members ← membersOf schemas
      return if ctx.draft = some .draft3 then .each (propertyOrMissing judge fields) members
        else .each (property judge fields) members
  | _ => .valid

/-- `patternProperties`: each schema for the properties in whose name its pattern occurs. -/
def patternProperties (judge : Judge) (schemas v : Value) : Outcome :=
  match v with
  | .object fields =>
    .ofResult do
      return .each (fun entry => .each (fun p => .ofResult do
        if ← occurs (.scalar entry.1) p.1 then return judge.applyAt (.member p.1) entry.2 p.2
        else return .valid) (namedFields fields)) (← membersOf schemas)
  | _ => .valid

/-- `propertyNames`: each name as a value of its own. -/
def propertyNames (judge : Judge) (schema v : Value) : Outcome :=
  match v with
  | .object fields => .each (fun p => judge.apply schema (.str p.1)) (namedFields fields)
  | _ => .valid

/-- Is the name among the declared ones: a member of an object, an item of a list, or a part of a
text? -/
def isDeclared (declared : Option Value) (name : String) : Except Fault Bool :=
  match declared with
  | none => .ok false
  | some (.object fields) => .ok (Value.hasField fields name)
  | some (.list items) => .ok (items.contains (.str name))
  | some (.str s) => .ok ((s.splitOn name).length != 1 || name.isEmpty)
  | some _ => .error .wrongShape

/-- The patterns under `patternProperties`, joined to alternatives of one pattern. -/
def joinedPatterns (siblings : Fields) : Except Fault String :=
  match Value.lookup siblings "patternProperties" with
  | none => .ok ""
  | some v => do
    let parts ← partsOf v
    match parts.mapM Value.string? with
    | some texts => return "|".intercalate texts
    | none => throw .wrongShape

/-- The properties that are neither declared nor matched by a pattern. -/
def extraProperties (siblings : Fields) (fields : Fields) :
    Except Fault (List (String × Value)) := do
  let patterns ← joinedPatterns siblings
  filterM (fun p => do
    if ← isDeclared (Value.lookup siblings "properties") p.1 then return false
    else if patterns.isEmpty then return true
    else return !(← occurs (.str patterns) p.1)) (namedFields fields)

/-- Texts in the order of their code points. -/
def sortTexts (texts : List String) : List String := texts.mergeSort (· ≤ ·)

/-- One schema for each of the given properties, from the last to the first. -/
def eachProperty (judge : Judge) (schema : Value) (extra : List (String × Value)) : Outcome :=
  .each (fun p => judge.applyAt (.member p.1) schema p.2) extra.reverse

/-- The patterns as they are listed in a message. -/
def listedPatterns (patterns : Value) : Except Fault (List Value) := do
  let parts ← partsOf patterns
  match parts.mapM Value.string? with
  | some texts => return (sortTexts texts).map .str
  | none => throw .wrongShape

/-- What forbidden extra properties violate. -/
def forbiddenProperties (siblings : Fields) (extra : List (String × Value)) : Outcome :=
  let names := sortTexts (extra.map (·.1))
  match Value.lookup siblings "patternProperties" with
  | none => .violated (.extraProperties names)
  | some patterns => .ofResult do
    return .violated (.unmatchedProperties names (← listedPatterns patterns))

/-- `additionalProperties`: the schema of extra properties, or their prohibition. In the earlier
dialect only `false` forbids them; in the later one every falsy value does. -/
def additionalProperties (ctx : Context) (judge : Judge) (siblings : Fields) (schema v : Value) :
    Outcome :=
  match v with
  | .object fields =>
    .ofResult do
      let extra ← extraProperties siblings fields
      return match schema, ctx.reading with
        | .object _, _ => eachProperty judge schema extra
        | .bool false, .v30 =>
          .require extra.isEmpty (.extraProperties (extra.map (·.1)))
        | _, .v30 => .valid
        | _, .v31 =>
          if schema.truthy || extra.isEmpty then .valid else forbiddenProperties siblings extra
  | _ => .valid

/-- The members of an object of demands whose name is a property. -/
def demandsMet (fields : Fields) (demands : Fields) : Fields :=
  demands.filter fun entry => match entry.1 with
    | .str name => Value.hasField fields name
    | _ => false

/-- The names that a property asks for are properties too. -/
def namesAsked (fields : Fields) (key : Scalar) (names : Value) : Outcome :=
  .ofResult do
    return .each (fun name => .ofResult do
      return .require (← isPropertyOf fields name) (.missingDependency name (.scalar key)))
      (← partsOf names)

/-- `dependentRequired`: the names that properties ask for. -/
def dependentRequired (demands v : Value) : Outcome :=
  match v with
  | .object fields =>
    .ofResult do
      return .each (fun entry => namesAsked fields entry.1 entry.2)
        (demandsMet fields (← membersOf demands))
  | _ => .valid

/-- `dependentSchemas`: the schemas that properties ask for, applied to the whole object. -/
def dependentSchemas (judge : Judge) (demands v : Value) : Outcome :=
  match v with
  | .object fields =>
    .ofResult do
      return .each (fun entry => judge.apply entry.2 v)
        (demandsMet fields (← membersOf demands))
  | _ => .valid

/-- What one property asks for under `dependencies`: names, or a schema for the whole object. In the
third draft a text is one name and only an object is a schema; later only a list holds names. -/
def dependency (ctx : Context) (judge : Judge) (fields : Fields) (entry : Scalar × Value) :
    Outcome :=
  match ctx.draft, entry.2 with
  | some .draft3, .str _ => namesAsked fields entry.1 (.list [entry.2])
  | some .draft3, .object _ => judge.apply entry.2 (.object fields)
  | some .draft3, _ | _, .list _ => namesAsked fields entry.1 entry.2
  | _, _ => judge.apply entry.2 (.object fields)

/-- `dependencies`: the names and the schemas that properties ask for. -/
def dependencies (ctx : Context) (judge : Judge) (demands v : Value) : Outcome :=
  match v with
  | .object fields =>
    .ofResult do
      return .each (dependency ctx judge fields) (demandsMet fields (← membersOf demands))
  | _ => .valid

end ApiContract.Schema.Rule
