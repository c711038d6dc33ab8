import ApiContract.Document.Validity
import ApiContract.Options
import ApiContract.Route.Index

/-!
# Contracts

A contract is a document whose operations have been compiled. It checks requests and responses
against the operation that they belong to, which is found by path and method or by its id.
-/

namespace ApiContract

/-- A compiled document. -/
structure Contract where
  version : Option String
  index : PathIndex

namespace Contract

/-- The OpenAPI version that a document states as text. -/
def statedVersion (document : Value) : Option String := (document.member? "openapi").bind Value.string?

/-- Build a contract from a document, with an engine for each direction that depends on the options
of the direction and the version of the document. On demand the document has to be valid. -/
def build {m : Type → Type} [Monad m] [MonadExceptOf Failure m]
    (engine : EngineOptions → Option String → Engine m) (options : ContractOptions)
    (document : Value) : m Contract := do
  if options.validateDocument && !Document.isValid document then throw .invalidDocument
  let version := statedVersion document
  return ⟨version, ← PathIndex.build document (engine options.request version)
    (engine options.response version)⟩

/-- Build a contract with the standard engine. -/
def ofDocument (options : ContractOptions) (document : Value) : Except Failure Contract :=
  build Engine.standard options document

/-! ## Requests -/

/-- Check any value as a request to an operation. -/
def requestTo (op : Operation) (request : Value) (lookedUp : Option String) :
    Except Failure (Option String) :=
  match request with
  | .object fields => op.validateRequest fields lookedUp
  | _ => stop .wrongShape

/-- The method that a request names; a method that is no text counts as the empty one. -/
def methodOfRequest (request : Value) : Except Failure String :=
  match request with
  | .object fields => .ok (((Value.lookup fields "method").bind Value.string?).getD "")
  | _ => stop .wrongShape

/-- Check a request at a path for a method. -/
def validateRequestByPath (c : Contract) (path method request : Value) :
    Except Failure (Option String) := do
  requestTo (← c.index.lookupValues path method) request none

/-- Check a request at a path for the method that it names. -/
def validateRequest (c : Contract) (path request : Value) : Except Failure (Option String) := do
  c.validateRequestByPath path (.str (← methodOfRequest request)) request

/-- Check a request to the operation with an id. -/
def validateRequestById (c : Contract) (id request : Value) : Except Failure (Option String) := do
  requestTo (← c.index.lookupIdValue id) request id.string?

/-! ## Responses -/

/-- A falsy response stands for one without anything in it. -/
def responseOrEmpty (response : Value) : Value := if response.truthy then response else .object []

/-- Check a response with a status, at a path for a method. -/
def validateResponse (c : Contract) (path method status response : Value) :
    Except Failure Operation.ValidatedResponse := do
  (← c.index.lookupValues path method).validateResponse status (responseOrEmpty response)

/-- Check a response with a status of the operation with an id. -/
def validateResponseById (c : Contract) (id status response : Value) :
    Except Failure Operation.ValidatedResponse := do
  (← c.index.lookupIdValue id).validateResponse status (responseOrEmpty response)

/-! ## Inspection -/

/-- The declared media types of the request body at a path for a method; none where the lookup does
not lead to an operation. -/
def requestContentTypes (c : Contract) (path method : Value) : Except Failure (List String) :=
  match c.index.lookupValues path method with
  | .ok op => .ok op.requestContentTypes
  | .error (.contract e) => if e.kind.isA .structuralLookup then .ok [] else .error (.contract e)
  | .error failure => .error failure

end Contract

end ApiContract
