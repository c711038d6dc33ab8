import ApiContract.Operation.Basic
import ApiContract.Route.Template

/-!
# The index of a document

An index holds the routes of a document in order: each path template with its operations. A path is
served by the template that is that very path, or else by the best one that matches it: templates that
declare the method come before those that do not, then the one with the most literal segments is
taken. A tie is ambiguous.
-/

namespace ApiContract

/-- A path template with its operations, in the fixed order of methods. -/
structure Route where
  template : Template
  operations : List Operation

/-- The routes of a document in order. -/
structure PathIndex where
  routes : List Route

/-- The methods of which a path can declare operations, in order. -/
def httpMethods : List String :=
  ["get", "post", "put", "patch", "delete", "options", "head", "trace"]

namespace Route

/-- The operation under a method in lower case. -/
def operation? (r : Route) (method : String) : Option Operation :=
  r.operations.find? (·.method == method)

/-- Does the route declare the method? -/
def declares (r : Route) (method : String) : Bool := (r.operation? method).isSome

end Route

namespace PathIndex

/-! ## Building -/

section Build

variable {m : Type → Type} [Monad m] [MonadExceptOf Failure m]

/-- The operation among those given that has the same id, if the id is not empty. -/
def sameId? (op : Operation) (others : List Operation) : Option Operation :=
  match op.namedId? with
  | some id => others.find? (·.id == some id)
  | none => none

/-- What two operations with the same id give rise to. -/
def duplicate (first second : Operation) : ContractError :=
  .duplicateOperationId (second.id.getD "") (Text.upper first.method, first.path)
    (Text.upper second.method, second.path)

/-- Build the operations that a path item declares under the methods; `seen` are the operations built
before, whose ids are taken. -/
def buildOperations (template : String) (item : Fields) (requestEngine responseEngine : Engine m)
    (seen : List Operation) : List String → m (List Operation)
  | [] => pure []
  | method :: rest =>
    match Value.lookup item method with
    | none | some .null => buildOperations template item requestEngine responseEngine seen rest
    | some (.object fields) => do
      let op ← Operation.build template method fields requestEngine responseEngine
        (Operation.fieldOf item "parameters")
      match sameId? op seen with
      | some first => throw (.contract (duplicate first op))
      | none =>
        return op ::
          (← buildOperations template item requestEngine responseEngine (seen ++ [op]) rest)
    | some _ => throw (.contract (.operationNotObject (Text.upper method) template))

/-- Build the routes of the given paths; `seen` are the operations built before. -/
def buildRoutes (requestEngine responseEngine : Engine m) (seen : List Operation) :
    Fields → m (List Route)
  | [] => pure []
  | (key, item) :: rest =>
    match key with
    | .str template => do
      if !template.startsWith "/" then throw (.contract (.invalidTemplate key))
      match item with
      | .object fields =>
        let operations ←
          buildOperations template fields requestEngine responseEngine seen httpMethods
        return ⟨Template.read template, operations⟩ ::
          (← buildRoutes requestEngine responseEngine (seen ++ operations) rest)
      | _ => throw (.contract (.pathItemNotObject template))
    | _ => throw (.contract (.invalidTemplate key))

/-- Build the index of a document. -/
def build (document : Value) (requestEngine responseEngine : Engine m) : m PathIndex :=
  match document with
  | .object fields =>
    match (Value.lookup fields "paths").getD (.object []) with
    | .object paths => do return ⟨← buildRoutes requestEngine responseEngine [] paths⟩
    | _ => throw (.contract .pathsNotObject)
  | _ => throw (.contract .documentNotObject)

end Build

/-! ## Looking up -/

/-- The path templates in order. -/
def templates (index : PathIndex) : List String := index.routes.map (·.template.text)

/-- The operations in order. -/
def operations (index : PathIndex) : List Operation := index.routes.flatMap (·.operations)

/-- The route whose template is the given text. -/
def route? (index : PathIndex) (template : String) : Option Route :=
  index.routes.find? (·.template.text == template)

/-- The routes whose template matches the path. -/
def candidates (index : PathIndex) (path : String) : List Route :=
  index.routes.filter (·.template.fits path)

/-- The routes that declare the method, or all if none does or no method is asked for. -/
def preferred (method : Option String) (routes : List Route) : List Route :=
  match method with
  | none => routes
  | some method =>
    let declaring := routes.filter (·.declares (Text.lower method))
    if declaring.isEmpty then routes else declaring

/-- The greatest number of literal segments. -/
def mostLiteral (routes : List Route) : Nat :=
  (routes.map (·.template.literalCount)).foldl max 0

/-- The routes with the greatest number of literal segments. -/
def topTier (routes : List Route) : List Route :=
  routes.filter (·.template.literalCount == mostLiteral routes)

/-- The route that serves a path, for a method if one is given. -/
def serve (index : PathIndex) (path : String) (method : Option String) :
    Except ContractError Route :=
  match topTier (preferred method (index.candidates path)) with
  | [] => .error .noPathMatch
  | [route] => .ok route
  | tier => .error (.ambiguousPath path (tier.map (·.template.text)))

/-- The operation that serves a method at a path. -/
def lookup (index : PathIndex) (path method : String) : Except ContractError Operation :=
  let method := Text.lower method
  match (index.route? path).bind (·.operation? method) with
  | some op => .ok op
  | none => do
    match (← index.serve path (some method)).operation? method with
    | some op => .ok op
    | none => .error .methodNotDeclared

/-- The operation with the given id. -/
def lookupId (index : PathIndex) (id : String) : Except ContractError Operation :=
  match index.operations.find? (·.namedId? == some id) with
  | some op => .ok op
  | none => .error .noOperationIdMatch

/-! ## Arguments of any shape -/

/-- A path that is no text is no path, but where there are no templates nothing asks for its text. -/
def pathOf (index : PathIndex) : Value → Except Failure String
  | .str path => .ok path
  | _ => if index.routes.isEmpty then .ok "" else stop .wrongShape

/-- A method has to be a text. -/
def methodOf : Value → Except Failure String
  | .str method => .ok method
  | _ => stop .wrongShape

/-- Look up an operation by any two values. -/
def lookupValues (index : PathIndex) (path method : Value) : Except Failure Operation := do
  let method ← methodOf method
  match path with
  | .list _ | .object _ => stop .wrongShape
  | _ => (index.lookup (← index.pathOf path) method).mapError .contract

/-- Look up an operation by any value as its id. -/
def lookupIdValue (index : PathIndex) : Value → Except Failure Operation
  | .str id => (index.lookupId id).mapError .contract
  | .scalar _ => .error (.contract .noOperationIdMatch)
  | _ => stop .wrongShape

/-- The template that serves any value as a path, for any value as a method; null asks for none. -/
def serveValues (index : PathIndex) (path method : Value) : Except Failure String := do
  let path ← index.pathOf path
  if (index.candidates path).isEmpty then throw (.contract .noPathMatch)
  let method ← match method with
    | .null => pure none
    | v => do pure (some (← methodOf v))
  return (← (index.serve path method).mapError .contract).template.text

end PathIndex

end ApiContract
