import ApiContract.Body.Validator
import ApiContract.Operation.Status
import ApiContract.Parameter.Merge
import ApiContract.Parameter.Validator

/-!
# Operations

An operation is one method at one path. All that its requests and responses are checked with is
compiled when it is built: the parameters of each location and the body of a request, the headers and
the body of each response.
-/

namespace ApiContract

/-- The checks of one response. -/
structure ResponseValidator where
  header : ParameterValidator
  body : BodyValidator

/-- A compiled operation. -/
structure Operation where
  path : String
  /-- The method in lower case. -/
  method : String
  id : Option String
  pathParameters : ParameterValidator
  queryParameters : ParameterValidator
  headerParameters : ParameterValidator
  cookieParameters : ParameterValidator
  requestBody : Option BodyValidator
  /-- The declared responses under their normalized statuses; the last of each status counts. -/
  responses : List (String × ResponseValidator)

namespace Operation

section Build

variable {m : Type → Type} [Monad m] [MonadExceptOf Failure m]

/-- The parameters at a location. -/
def located (location : String) (parameters : List Value) : List Value :=
  parameters.filter fun p => p.member? "in" == some (.str location)

/-- The value of a field, null when it is missing. -/
def fieldOf (fields : Fields) (name : String) : Value := (Value.lookup fields name).getD .null

/-- The validator of the request body, if the operation declares one. -/
def buildRequestBody (engine : Engine m) (declared : Option Value) : m (Option BodyValidator) :=
  match declared with
  | some (.object fields) => do
    return some (← BodyValidator.build (fieldOf fields "content")
      (Value.truthy? (Value.lookup fields "required")) engine .request)
  | _ => pure none

/-- The validators of one response. -/
def buildResponse (engine : Engine m) (fields : Fields) : m ResponseValidator := do
  let header ← ParameterValidator.ofHeaders (fieldOf fields "headers") engine .response
  let body ← BodyValidator.build (fieldOf fields "content") false engine .response
  return ⟨header, body⟩

/-- The validators of the declared responses that are objects, in order. -/
def buildResponses (engine : Engine m) : Fields → m (List (String × ResponseValidator))
  | [] => pure []
  | (status, .object fields) :: rest => do
    let response ← buildResponse engine fields
    return (Status.normalize (.scalar status), response) :: (← buildResponses engine rest)
  | _ :: rest => buildResponses engine rest

/-- The entries of the responses object. -/
def declaredResponses (responses : Option Value) : Fields :=
  match responses with
  | some (.object fields) => fields
  | _ => []

/-- Build an operation from its fields, with the parameters of its path. -/
def build (path method : String) (fields : Fields) (requestEngine responseEngine : Engine m)
    (ofPath : Value) : m Operation := do
  let parameters := Parameter.merge ofPath (fieldOf fields "parameters")
  let pathParameters ← ParameterValidator.ofLocation "path" (located "path" parameters) requestEngine
  let queryParameters ←
    ParameterValidator.ofLocation "query" (located "query" parameters) requestEngine
  let headerParameters ←
    ParameterValidator.ofHeaderParameters (located "header" parameters) requestEngine .request
  let cookieParameters ←
    ParameterValidator.ofLocation "cookie" (located "cookie" parameters) requestEngine
  let requestBody ← buildRequestBody requestEngine (Value.lookup fields "requestBody")
  let responses ← buildResponses responseEngine (declaredResponses (Value.lookup fields "responses"))
  return {
    path := path
    method := Text.lower method
    id := (Value.lookup fields "operationId").bind Value.string?
    pathParameters, queryParameters, headerParameters, cookieParameters, requestBody, responses }

end Build

/-- The id of an operation, if it has one that is not empty. -/
def namedId? (op : Operation) : Option String := op.id.filter (!·.isEmpty)

/-- What identifies an operation: its id, or its method and path. -/
def key (op : Operation) : String := op.namedId?.getD (op.method ++ ":" ++ op.path)

/-- The operation on one line, for a developer. -/
def summary (op : Operation) : String :=
  "CompiledOperation(" ++ Text.upper op.method ++ " " ++ op.path ++ ", operation_id=" ++
    (match op.id with | some id => Text.quoted id | none => "None") ++ ")"

/-- The declared media types of the request body. -/
def requestContentTypes (op : Operation) : List String :=
  match op.requestBody with
  | some body => body.contentTypes
  | none => []

/-! ## Requests -/

/-- The id that a validated request is reported under: the one it was looked up by, the one that the
request names, or the operation's own. -/
def reportedId (op : Operation) (request : Fields) (lookedUp : Option String) : Option String :=
  match lookedUp.filter (!·.isEmpty) with
  | some id => some id
  | none =>
    match ((Value.lookup request "operationId").bind Value.string?).filter (!·.isEmpty) with
    | some id => some id
    | none => op.id

/-- Check the body of a request, if the operation declares one. -/
def validateRequestBody (op : Operation) (request : Fields) : Except Failure PUnit :=
  match op.requestBody with
  | none => pure ⟨⟩
  | some body => do
    body.validate (fieldOf request "body") (← MediaType.ofHeaders (fieldOf request "header"))

/-- Check a request, part by part: path, query, header, cookie, body. -/
def validateRequest (op : Operation) (request : Fields) (lookedUp : Option String) :
    Except Failure (Option String) := do
  op.pathParameters.validate (fieldOf request "path")
  op.queryParameters.validate (fieldOf request "query")
  op.headerParameters.validate (fieldOf request "header")
  op.cookieParameters.validate (fieldOf request "cookie")
  op.validateRequestBody request
  return op.reportedId request lookedUp

/-! ## Responses -/

/-- A response that has been checked. -/
structure ValidatedResponse where
  id : Option String
  /-- The key of the response that it was checked against. -/
  status : String
  deriving DecidableEq, Repr

/-- The response declared under a normalized status; the last one counts. -/
def response? (op : Operation) (status : String) : Option ResponseValidator :=
  op.responses.reverse.lookup status

/-- The response that answers for a normalized status, with its key. -/
def selectResponse (op : Operation) (status : String) :
    Except ContractError (String × ResponseValidator) :=
  match (Status.candidates status).findSome? fun key => (op.response? key).map (key, ·) with
  | some selected => .ok selected
  | none => .error (.noResponse status)

/-- Check a response against the one that is declared for its status: headers first, then body. -/
def validateResponse (op : Operation) (status response : Value) :
    Except Failure ValidatedResponse := do
  let (key, validator) ← (op.selectResponse (Status.normalize status)).mapError .contract
  match response with
  | .object fields =>
    validator.header.validate (fieldOf fields "header")
    validator.body.validate (fieldOf fields "body")
      (← MediaType.ofHeaders (fieldOf fields "header"))
    return ⟨op.id, key⟩
  | _ => stop .wrongShape

end Operation

end ApiContract
