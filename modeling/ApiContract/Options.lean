/-!
# Options

A schema engine reports the first violation or all of them, and in strict mode it refuses schemas
with unknown keywords and formats. A contract has one set of options for each direction.
-/

namespace ApiContract

/-- The options of one schema engine. -/
structure EngineOptions where
  allErrors : Bool := false
  strict : Bool := false
  deriving DecidableEq, Repr

/-- The options of a contract. -/
structure ContractOptions where
  request : EngineOptions := {}
  response : EngineOptions := {}
  validateDocument : Bool := false
  deriving DecidableEq, Repr

namespace ContractOptions

/-- A variable of the environment is a set flag when its value is `1`. -/
def isSet (environment : String → Option String) (name : String) : Bool :=
  environment name == some "1"

/-- The options that an environment asks for. -/
def ofEnvironment (environment : String → Option String) : ContractOptions :=
  let strict := isSet environment "OPENAPI_STRICT"
  { request := ⟨isSet environment "OPENAPI_REQUEST_ALL_ERRORS", strict⟩
    response := ⟨isSet environment "OPENAPI_RESPONSE_ALL_ERRORS", strict⟩
    validateDocument := isSet environment "OPENAPI_VALIDATE_DOCUMENT" }

end ContractOptions

end ApiContract
