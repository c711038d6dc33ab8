import ApiContract.Failure.Fault
import ApiContract.Failure.Violation

/-!
# Contract errors

A contract error says that a document, a request or a response does not keep to its contract. It has
a kind with a default status code, a message, the location at fault and the violations found there.
`Failure` gathers all ways in which an operation of the library ends without a result.
-/

namespace ApiContract

/-- The kinds of contract errors. -/
inductive ErrorKind
  | contract
  | document
  | schemaCompile
  | structuralLookup
  | ambiguousPath
  | requestValidation
  | parameterValidation
  | requestBodyValidation
  | responseValidation
  | responseHeaderValidation
  | responseBodyValidation
  | responseDefinitionMissing
  deriving DecidableEq, Repr

namespace ErrorKind

/-- All kinds. -/
def all : List ErrorKind :=
  [contract, document, schemaCompile, structuralLookup, ambiguousPath, requestValidation,
    parameterValidation, requestBodyValidation, responseValidation, responseHeaderValidation,
    responseBodyValidation, responseDefinitionMissing]

/-- The public name of a kind. -/
def name : ErrorKind → String
  | contract => "ContractError"
  | document => "DocumentError"
  | schemaCompile => "SchemaCompileError"
  | structuralLookup => "StructuralLookupError"
  | ambiguousPath => "AmbiguousPathError"
  | requestValidation => "RequestValidationError"
  | parameterValidation => "ParameterValidationError"
  | requestBodyValidation => "RequestBodyValidationError"
  | responseValidation => "ResponseValidationError"
  | responseHeaderValidation => "ResponseHeaderValidationError"
  | responseBodyValidation => "ResponseBodyValidationError"
  | responseDefinitionMissing => "ResponseDefinitionMissingError"

/-- The kind with the given public name. -/
def ofName? (s : String) : Option ErrorKind := all.find? (·.name == s)

/-- The kind of which a kind is a special case. -/
def parent? : ErrorKind → Option ErrorKind
  | contract => none
  | document | structuralLookup | requestValidation | responseValidation => some contract
  | schemaCompile => some document
  | ambiguousPath => some structuralLookup
  | parameterValidation | requestBodyValidation => some requestValidation
  | responseHeaderValidation | responseBodyValidation | responseDefinitionMissing =>
    some responseValidation

/-- The kind and those of which it is a special case; no chain has more than three. -/
def lineage (k : ErrorKind) : List ErrorKind :=
  k :: match k.parent? with
    | none => []
    | some p => p :: p.parent?.toList

/-- Is the kind the given one or a special case of it? -/
def isA (k ancestor : ErrorKind) : Bool := ancestor ∈ k.lineage

/-- Every kind is a contract error. -/
theorem isA_contract (k : ErrorKind) : k.isA contract = true := by cases k <;> rfl

/-- The status code of a kind when no other is given. -/
def defaultCode : ErrorKind → Int
  | contract | requestValidation | parameterValidation | requestBodyValidation => 400
  | structuralLookup => 404
  | ambiguousPath => 409
  | document | schemaCompile | responseValidation | responseHeaderValidation
  | responseBodyValidation | responseDefinitionMissing => 500

end ErrorKind

/-- A contract that is not kept. -/
structure ContractError where
  kind : ErrorKind
  message : String
  location : String
  violations : List Violation := []
  code : Int := kind.defaultCode
  deriving DecidableEq

namespace ContractError

/-- The violations in their written form, ordered. -/
def suggestions (e : ContractError) : List Suggestion := Suggestion.ofViolations e.violations

/-- The error on one line, for a developer. -/
def summary (e : ContractError) : String :=
  e.kind.name ++ "(" ++ Text.quoted e.message ++ ", location=" ++ Text.quoted e.location ++ ")"

/-! ## Documents -/

/-- The document is no object. -/
def documentNotObject : ContractError :=
  { kind := .document, message := "OpenAPI document must be a mapping", location := "document" }

/-- The document's `paths` are no object. -/
def pathsNotObject : ContractError :=
  { kind := .document, message := "OpenAPI document 'paths' must be a mapping",
    location := "paths" }

/-- A key under `paths` is no text that starts with a slash. -/
def invalidTemplate (key : Scalar) : ContractError :=
  { kind := .document, message := "Invalid path template: " ++ Value.displayScalar key,
    location := "paths" }

/-- What stands under a path template is no object. -/
def pathItemNotObject (template : String) : ContractError :=
  { kind := .document, message := "Path item for " ++ template ++ " must be a mapping",
    location := "paths" }

/-- What stands under a method, given in upper case, is no object. -/
def operationNotObject (method template : String) : ContractError :=
  { kind := .document, message := "Operation " ++ method ++ " " ++ template ++ " must be a mapping",
    location := "paths" }

/-- Two operations, each given by its method in upper case and its template, share an id. -/
def duplicateOperationId (id : String) (first second : String × String) : ContractError :=
  { kind := .document, location := "paths",
    message := "Duplicate operationId " ++ Text.quoted id ++ " (" ++ first.1 ++ " " ++ first.2 ++
      ", " ++ second.1 ++ " " ++ second.2 ++ ")" }

/-- A file holds something other than an object. -/
def fileNotObject (path : String) : ContractError :=
  { kind := .document, message := "OpenAPI document at " ++ path ++ " is not a mapping",
    location := "document" }

/-! ## Schemas -/

/-- What is to be compiled is neither an object nor a truth value. -/
def schemaNotObject (schema : Value) : ContractError :=
  { kind := .schemaCompile, message := "Schema must be an object, got " ++ schema.kindName,
    location := "schema" }

/-- Strict mode found problems, the first of which is named. -/
def strictProblems (first : Violation) (rest : List Violation) : ContractError :=
  { kind := .schemaCompile, message := "Strict mode rejected schema: " ++ first.message,
    location := "schema", violations := first :: rest }

/-! ## Lookups -/

/-- No template matches a path. -/
def noPathMatch : ContractError :=
  { kind := .structuralLookup, message := "No matches found for the given path",
    location := "paths" }

/-- No operation has an id. -/
def noOperationIdMatch : ContractError :=
  { kind := .structuralLookup, message := "No matches found for the given operationId",
    location := "request" }

/-- A template matches a path, but declares no operation for the method. -/
def methodNotDeclared : ContractError :=
  { kind := .structuralLookup, message := "Invalid request method for the given path",
    location := "paths", code := 405 }

/-- Several templates match a path equally well. -/
def ambiguousPath (path : String) (templates : List String) : ContractError :=
  { kind := .ambiguousPath, location := "paths",
    message := "Path " ++ path ++ " matches several templates: " ++ ", ".intercalate templates }

/-- No response answers for a status. -/
def noResponse (status : String) : ContractError :=
  { kind := .responseDefinitionMissing, location := "response",
    message := "No response defined for status " ++ status ++ " and no default response" }

end ContractError

/-- The ways in which an operation ends without a result. -/
inductive Failure
  /-- A contract is not kept. -/
  | contract (error : ContractError)
  /-- A document is not a valid OpenAPI document. -/
  | invalidDocument
  /-- A value violates the schema that it was checked against. -/
  | rejected (violations : List Violation)
  /-- The computation stopped. -/
  | fault (fault : Fault)
  deriving DecidableEq

namespace Failure

/-- Is the failure anything but a fault? -/
def isTyped : Failure → Bool
  | .fault _ => false
  | _ => true

/-- The number of violations as a message. -/
def rejectionMessage (violations : List Violation) : String :=
  toString violations.length ++ " schema violation(s)"

end Failure

/-- A computation stopped by a fault. -/
def stop {α : Type} (f : Fault) : Except Failure α := .error (.fault f)

end ApiContract
