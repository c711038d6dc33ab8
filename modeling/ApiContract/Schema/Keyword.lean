import ApiContract.Schema.Dialect
import ApiContract.Schema.Draft

/-!
# Keywords

The keywords that a dialect or a draft checks, the names that a dialect knows without checking them, and
the places of a schema at which further schemas stand.
-/

namespace ApiContract

/-- The keywords that say something about a value. -/
inductive Keyword
  | multipleOf | maximum | minimum | exclusiveMaximum | exclusiveMinimum
  | maxLength | minLength | pattern | format
  | maxItems | minItems | uniqueItems | items | prefixItems | additionalItems | contains
  | unevaluatedItems
  | maxProperties | minProperties | required | properties | patternProperties
  | additionalProperties | propertyNames | dependentRequired | dependentSchemas | dependencies
  | unevaluatedProperties
  | enum | const | type | disallow
  | allOf | anyOf | oneOf | not | extension | ifThenElse | reference | recursiveReference
  | readOnly | writeOnly
  deriving DecidableEq, Repr

namespace Keyword

/-- The keywords of either dialect by name. -/
def shared : List (String × Keyword) :=
  [("multipleOf", multipleOf), ("maximum", maximum), ("minimum", minimum),
    ("maxLength", maxLength), ("minLength", minLength), ("pattern", pattern),
    ("maxItems", maxItems), ("minItems", minItems), ("uniqueItems", uniqueItems),
    ("maxProperties", maxProperties), ("minProperties", minProperties), ("enum", enum),
    ("type", type), ("allOf", allOf), ("oneOf", oneOf), ("anyOf", anyOf), ("not", not),
    ("items", items), ("properties", properties), ("required", required),
    ("additionalProperties", additionalProperties), ("format", format), ("$ref", reference),
    ("readOnly", readOnly), ("writeOnly", writeOnly)]

/-- The keywords of the later dialect alone. -/
def later : List (String × Keyword) :=
  [("const", const), ("contains", contains), ("dependentRequired", dependentRequired),
    ("dependentSchemas", dependentSchemas), ("exclusiveMaximum", exclusiveMaximum),
    ("exclusiveMinimum", exclusiveMinimum), ("if", ifThenElse),
    ("patternProperties", patternProperties), ("prefixItems", prefixItems),
    ("propertyNames", propertyNames), ("unevaluatedItems", unevaluatedItems),
    ("unevaluatedProperties", unevaluatedProperties), ("$dynamicRef", reference)]

/-- The keyword that a dialect checks under a name. -/
def named? (d : Dialect) (name : String) : Option Keyword :=
  match d with
  | .v30 => shared.lookup name
  | .v31 => (shared ++ later).lookup name

/-- The keywords of the drafts by name, in groups with the first and the last draft that checks them. -/
def groups : List (Draft × Draft × List (String × Keyword)) :=
  [(.draft3, .draft202012,
      [("$ref", reference), ("additionalProperties", additionalProperties), ("enum", enum),
        ("format", format), ("items", items), ("maxItems", maxItems), ("maxLength", maxLength),
        ("maximum", maximum), ("minItems", minItems), ("minLength", minLength),
        ("minimum", minimum), ("pattern", pattern), ("patternProperties", patternProperties),
        ("properties", properties), ("type", type), ("uniqueItems", uniqueItems)]),
    (.draft3, .draft3, [("disallow", disallow), ("divisibleBy", multipleOf), ("extends", extension)]),
    (.draft3, .draft7, [("dependencies", dependencies)]),
    (.draft3, .draft201909, [("additionalItems", additionalItems)]),
    (.draft4, .draft202012,
      [("allOf", allOf), ("anyOf", anyOf), ("maxProperties", maxProperties),
        ("minProperties", minProperties), ("multipleOf", multipleOf), ("not", not),
        ("oneOf", oneOf), ("required", required)]),
    (.draft6, .draft202012,
      [("const", const), ("contains", contains), ("exclusiveMaximum", exclusiveMaximum),
        ("exclusiveMinimum", exclusiveMinimum), ("propertyNames", propertyNames)]),
    (.draft7, .draft202012, [("if", ifThenElse)]),
    (.draft201909, .draft201909, [("$recursiveRef", recursiveReference)]),
    (.draft201909, .draft202012,
      [("dependentRequired", dependentRequired), ("dependentSchemas", dependentSchemas),
        ("unevaluatedItems", unevaluatedItems), ("unevaluatedProperties", unevaluatedProperties)]),
    (.draft202012, .draft202012, [("$dynamicRef", reference), ("prefixItems", prefixItems)])]

/-- The keywords of a draft by name. -/
def drafted (draft : Draft) : List (String × Keyword) :=
  groups.flatMap fun (first, last, names) =>
    if first.number ≤ draft.number ∧ draft.number ≤ last.number then names else []

end Keyword

/-- The names that never fail a value but belong into a schema. -/
def annotationNames : List String :=
  ["$comment", "$defs", "$id", "$schema", "contentEncoding", "contentMediaType", "default",
    "definitions", "deprecated", "description", "discriminator", "example", "examples",
    "externalDocs", "id", "nullable", "readOnly", "title", "writeOnly", "xml"]

/-- What stands under a name in a schema. -/
inductive Place
  /-- A schema, or a list of schemas. -/
  | schema
  /-- A list of schemas. -/
  | schemaList
  /-- An object whose members are schemas. -/
  | schemaMap
  /-- Something that holds no schema. -/
  | data
  deriving DecidableEq, Repr

namespace Place

/-- The names under which a schema stands. -/
def schemaNames : List String :=
  ["additionalItems", "additionalProperties", "contains", "else", "if", "items", "not",
    "propertyNames", "then", "unevaluatedItems", "unevaluatedProperties"]

/-- The names under which a list of schemas stands. -/
def schemaListNames : List String := ["allOf", "anyOf", "oneOf", "prefixItems"]

/-- The names under which an object of schemas stands. -/
def schemaMapNames : List String :=
  ["$defs", "definitions", "dependentSchemas", "patternProperties", "properties"]

/-- What stands under a name. -/
def ofName (name : String) : Place :=
  if name ∈ schemaNames then .schema
  else if name ∈ schemaListNames then .schemaList
  else if name ∈ schemaMapNames then .schemaMap
  else .data

/-- What stands under a key; a key that is no string holds no schema. -/
def ofKey : Scalar → Place
  | .str name => ofName name
  | _ => .data

end Place

end ApiContract
