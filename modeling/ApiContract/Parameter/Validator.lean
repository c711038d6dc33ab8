import ApiContract.Parameter.Aggregate
import ApiContract.Schema.Engine

/-!
# Parameter validators

A validator checks the values of one location. The values come as an object, or as pairs that make
one; nothing at all counts as an empty object. Where letter case is left aside, the names of the
values are put into lower case first.
-/

namespace ApiContract

/-- Checks the values of one parameter location. -/
structure ParameterValidator where
  location : String
  caseInsensitive : Bool
  errorKind : ErrorKind
  /-- The schema that the values, as one object, have to satisfy. -/
  schema : Value
  unit : SchemaUnit

namespace ParameterValidator

/-- Build a validator from its parameters. -/
def build {m : Type → Type} [Monad m] [MonadExceptOf Failure m] (location : String)
    (naming : Parameter.Naming) (errorKind : ErrorKind) (parameters : List Value)
    (engine : Engine m) (direction : Direction) : m ParameterValidator := do
  let schema ← MonadExcept.ofExcept (Parameter.aggregate naming parameters)
  return ⟨location, naming.caseInsensitive, errorKind, schema,
    ← SchemaUnit.compile engine direction schema⟩

/-- The validator of a request location. The names of headers and cookies are compared without
regard to case. -/
def ofLocation {m : Type → Type} [Monad m] [MonadExceptOf Failure m] (location : String)
    (parameters : List Value) (engine : Engine m) (direction : Direction := .request) :
    m ParameterValidator :=
  build location ⟨["header", "cookie"].contains location, []⟩ .parameterValidation parameters engine
    direction

/-- The location of headers in a direction. -/
def headerLocation : Direction → String
  | .request => "header"
  | .response => "response-header"

/-- The kind of error that a header in a direction gives rise to. -/
def headerErrorKind : Direction → ErrorKind
  | .request => .parameterValidation
  | .response => .responseHeaderValidation

/-- The validator of headers. The content type is not a header parameter. -/
def ofHeaderParameters {m : Type → Type} [Monad m] [MonadExceptOf Failure m]
    (parameters : List Value) (engine : Engine m) (direction : Direction) : m ParameterValidator :=
  build (headerLocation direction) ⟨true, ["Content-Type"]⟩ (headerErrorKind direction) parameters
    engine direction

/-- The parameter that an entry of a headers object declares: the header's own fields, which may
bring another name than the entry's. -/
def headerParameter? : Scalar × Value → Option Value
  -- Setting the entry's name first lets a header's own `name` replace it in place.
  | (key, .object fields) => some (.object (Fields.ofPairs ((.str "name", .scalar key) :: fields)))
  | _ => none

/-- The parameters that a headers object declares; a falsy value declares none. -/
def headerParameters (headers : Value) : Except Failure (List Value) :=
  match headers with
  | .object entries => .ok (entries.filterMap headerParameter?)
  | v => if v.truthy then stop .wrongShape else .ok []

/-- The validator of the headers that a headers object declares. -/
def ofHeaders {m : Type → Type} [Monad m] [MonadExceptOf Failure m] (headers : Value)
    (engine : Engine m) (direction : Direction) : m ParameterValidator := do
  ofHeaderParameters (← MonadExcept.ofExcept (headerParameters headers)) engine direction

/-! ## Values -/

/-- The two elements of a pair: of a list, of a text, or the two keys of an object. -/
def pairOf (v : Value) : Except Failure (Scalar × Value) :=
  match Schema.partsOf v with
  | .error f => stop f
  | .ok [.scalar key, value] => .ok (key, value)
  | .ok [_, _] => stop .wrongShape
  | .ok _ => stop .badValue

/-- The object that the values make. -/
def candidate (values : Value) : Except Failure Fields :=
  if !values.truthy then .ok []
  else
    match values with
    | .object fields => .ok fields
    | .list items => do return Fields.ofPairs (← items.mapM pairOf)
    | .str _ => stop .badValue
    | _ => stop .wrongShape

/-- The same fields under their names in lower case. -/
def lowerKeys (fields : Fields) : Fields :=
  Fields.ofPairs (fields.map fun f => (.str (Text.lower (Value.scalarText f.1)), f.2))

/-- Turn a rejection by the schema into the validator's error. -/
def typedError (validator : ParameterValidator) : Failure → Failure
  | .rejected violations => .contract
    { kind := validator.errorKind,
      message := "Schema validation error in " ++ validator.location,
      location := validator.location, violations := violations }
  | failure => failure

/-- Check the values of the location. -/
def validate (validator : ParameterValidator) (values : Value) : Except Failure PUnit := do
  let fields ← candidate values
  let fields := if validator.caseInsensitive then lowerKeys fields else fields
  (validator.unit.validate (.object fields)).mapError validator.typedError

end ParameterValidator

end ApiContract
