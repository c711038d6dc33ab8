import ApiContract.Number.Decimal
import ApiContract.Route.Index

/-!
# Valid documents

A document can be checked before its contract is built. The check itself is done outside, by
`openapi-spec-validator`, and what stands here takes its place: it covers the outline of an OpenAPI
document of version 3.0 or 3.1, its version, the fields that have to be there, the names of its top
level, the ids of its operations and the shape of their parameters. A document is valid when it has no
defect. Nothing that is proved about contracts depends on which documents are valid.
-/

namespace ApiContract.Document

/-- The versions of OpenAPI that are known. -/
inductive Edition
  | v30
  | v31
  deriving DecidableEq, Repr

/-- What is wrong with a document. -/
inductive Defect
  /-- The document is no object. -/
  | notObject
  /-- The version is missing or not known. -/
  | version
  /-- The title or the version of the interface is missing. -/
  | info
  /-- What the document is about is missing: paths, or in 3.1 one of paths, webhooks and components. -/
  | subject
  /-- A name of the top level is not known. -/
  | topLevelName (name : String)
  /-- An operation does not state its responses. -/
  | responses (template method : String)
  /-- Two operations have the same id. -/
  | operationId (id : String)
  /-- A parameter has neither a schema nor a content, or both. -/
  | parameter (template : String)
  deriving DecidableEq, Repr

/-- Is the text empty or a hyphen with something behind it? -/
def isVersionTail : List Char → Bool
  | [] => true
  | '-' :: _ :: _ => true
  | _ => false

/-- The edition that a version belongs to. -/
def edition? (version : String) : Option Edition :=
  match version.toList with
  | '3' :: '.' :: '0' :: '.' :: d :: tail =>
    if isDigit d && isVersionTail tail then some .v30 else none
  | '3' :: '.' :: '1' :: '.' :: d :: tail =>
    if isDigit d && isVersionTail (tail.dropWhile isDigit) then some .v31 else none
  | _ => none

/-- The names of the top level in 3.0; others have to start with `x-`. -/
def topLevelNames : List String :=
  ["openapi", "info", "externalDocs", "servers", "security", "tags", "paths", "components"]

/-- An operation with the template and the method that it belongs to. -/
structure DeclaredOperation where
  template : String
  method : String
  fields : Fields

/-- The path items of a document with their templates. -/
def pathItems (document : Fields) : List (String × Fields) :=
  (((Value.lookup document "paths").bind Value.fields?).getD []).filterMap fun p =>
    match p with
    | (.str template, .object item) => some (template, item)
    | _ => none

/-- The operations that a document declares. -/
def declaredOperations (document : Fields) : List DeclaredOperation :=
  (pathItems document).flatMap fun (template, item) =>
    httpMethods.filterMap fun method =>
      ((Value.lookup item method).bind Value.fields?).map fun fields => ⟨template, method, fields⟩

/-- The ids that occur again behind themselves. -/
def repeated : List String → List String
  | [] => []
  | id :: rest => if rest.contains id then id :: repeated rest else repeated rest

/-- Does a parameter have exactly one of a schema and a content? A reference stands for a parameter
elsewhere. -/
def isParameter : Value → Bool
  | .object fields =>
    Value.hasField fields "$ref" ||
      (Value.hasField fields "schema" != Value.hasField fields "content")
  | _ => false

/-- The parameters that a path item or an operation lists. -/
def listedParameters (fields : Fields) : List Value :=
  ((Value.lookup fields "parameters").bind Value.items?).getD []

/-- Does the object have a text under the name? -/
def hasText (fields : Fields) (name : String) : Bool :=
  ((Value.lookup fields name).bind Value.string?).isSome

/-- The defects of the top level. -/
def outlineDefects (document : Fields) (edition : Edition) : List Defect :=
  let info := ((Value.lookup document "info").bind Value.fields?).getD []
  let has := Value.hasField document
  let hasSubject := match edition with
    | .v30 => has "paths"
    | .v31 => has "paths" || has "webhooks" || has "components"
  let unknown := match edition with
    | .v30 => document.filterMap fun (key, _) =>
      match key with
      | .str name =>
        if topLevelNames.contains name || name.startsWith "x-" then none
        else some (Defect.topLevelName name)
      | key => some (.topLevelName (Value.displayScalar key))
    | .v31 => []
  (if hasText info "title" && hasText info "version" then [] else [.info]) ++
    (if hasSubject then [] else [.subject]) ++ unknown

/-- The operations that do not state their responses, which 3.1 allows. -/
def unanswered (edition : Edition) (operations : List DeclaredOperation) : List DeclaredOperation :=
  match edition with
  | .v30 => operations.filter fun op => !Value.hasField op.fields "responses"
  | .v31 => []

/-- The defects of the operations and the path items. -/
def operationDefects (document : Fields) (edition : Edition) : List Defect :=
  let operations := declaredOperations document
  let ids := operations.filterMap fun op =>
    (Value.lookup op.fields "operationId").bind Value.string?
  let owners := pathItems document ++ operations.map fun op => (op.template, op.fields)
  (unanswered edition operations).map (fun op => .responses op.template op.method) ++
    (repeated ids).map .operationId ++
    owners.flatMap fun (template, fields) =>
      ((listedParameters fields).filter (!isParameter ·)).map fun _ => .parameter template

/-- Everything that is wrong with a document. -/
def defects (document : Value) : List Defect :=
  match document with
  | .object fields =>
    match ((Value.lookup fields "openapi").bind Value.string?).bind edition? with
    | none => [.version]
    | some edition => outlineDefects fields edition ++ operationDefects fields edition
  | _ => [.notObject]

/-- Is the document free of defects? This stands for the answer of `openapi-spec-validator`, which knows
more defects than these. -/
def isValid (document : Value) : Bool := (defects document).isEmpty

end ApiContract.Document
