import ApiContract.Failure.Violation
import ApiContract.Format.Registry
import ApiContract.Schema.Keyword

/-!
# Strict mode

Strict mode refuses a schema with a keyword or a format that its dialect does not know. Extensions,
whose names start with `x-`, are exempt. All schemas inside the schema are looked at, those that
stand under one name before those under the next, and the fields of a schema before its inner
schemas.
-/

namespace ApiContract.Schema

/-- Is the name a keyword or an annotation of the dialect? -/
def knowsKeyword (d : Dialect) (name : String) : Bool :=
  (Keyword.named? d name).isSome || annotationNames.contains name

/-- Is the name a format of the dialect? -/
def knowsFormat (d : Dialect) (name : String) : Bool := (Format.named? d name).isSome

/-- The problems of one field of the schema at a pointer. -/
def fieldProblems (d : Dialect) (pointer : String) : Scalar × Value → List Violation
  | (.str name, v) =>
    if name.startsWith "x-" then []
    else
      (if knowsKeyword d name then [] else [.here (.unknownKeyword name pointer)]) ++
        (match name, v with
          | "format", .str format =>
            if knowsFormat d format then [] else [.here (.unknownFormat format pointer)]
          | _, _ => [])
  | _ => []

/-- The schemas under the given name, each with the pointer that leads to it. -/
def schemasUnder (pointer name : String) (fields : Fields) : List (String × Value) :=
  let here := pointer ++ "/" ++ name
  match Place.ofName name, Value.lookup fields name with
  | .schema, some (.list items) | .schemaList, some (.list items) =>
    items.zipIdx.map fun (v, i) => (here ++ "/" ++ toString i, v)
  | .schema, some v => [(here, v)]
  | .schemaMap, some (.object members) =>
    members.map fun (key, v) => (here ++ "/" ++ Value.scalarText key, v)
  | _, _ => []

/-- All names under which schemas stand, in the order in which they are looked at. -/
def placeNames : List String :=
  Place.schemaNames ++ Place.schemaListNames ++ Place.schemaMapNames

/-- The schemas inside a schema. -/
def innerSchemas (pointer : String) (fields : Fields) : List (String × Value) :=
  placeNames.flatMap fun name => schemasUnder pointer name fields

/-- The problems of a schema at a pointer. Each step inwards takes one from the depth. -/
def problemsWithin (d : Dialect) : Nat → String → Value → List Violation
  | depth + 1, pointer, .object fields =>
    fields.flatMap (fieldProblems d pointer) ++
      (innerSchemas pointer fields).flatMap fun (p, v) => problemsWithin d depth p v
  | _, _, _ => []

/-- The problems of a schema. No schema is nested deeper than it has parts. -/
def problems (d : Dialect) (schema : Value) : List Violation :=
  problemsWithin d schema.nodes "#" schema

end ApiContract.Schema
