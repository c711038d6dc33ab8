import ApiContract.Body.MediaType
import ApiContract.Schema.Engine

/-!
# Body validators

A body is checked against the schema of the entry of a content map that serves its content type: the
entry for exactly that type, else the one for all types with the same main type, else the one for all
types. Without a content type it is the entry for all types, or the only entry.
-/

namespace ApiContract

/-- Checks bodies against a content map. -/
structure BodyValidator where
  required : Bool
  direction : Direction
  /-- The declared patterns, as they are written. -/
  patterns : List String
  /-- The compiled schemas under their normalized patterns; the first of each pattern counts. -/
  units : List (String × SchemaUnit)

namespace BodyValidator

/-- Where a body at fault is. -/
def location (b : BodyValidator) : String := b.direction.name ++ "-body"

/-- The kind of error that a body gives rise to. -/
def errorKind (b : BodyValidator) : ErrorKind :=
  match b.direction with
  | .request => .requestBodyValidation
  | .response => .responseBodyValidation

/-- The declared schema of a media type object; whatever is no schema counts as the empty one. -/
def mediaSchema (media : Value) : Value :=
  match media.member? "schema" with
  | some schema => if Engine.isSchema schema then schema else .object []
  | none => .object []

/-- The entries of a content map whose keys are texts; a falsy value has none. -/
def entries (content : Value) : Except Failure (List (String × Value)) :=
  match content with
  | .object fields => .ok (fields.filterMap fun
      | (.str pattern, media) => some (pattern, mediaSchema media)
      | _ => none)
  | v => if v.truthy then stop .wrongShape else .ok []

/-- Compile the first schema of each normalized pattern. -/
def compileUnits {m : Type → Type} [Monad m] (engine : Engine m) (direction : Direction)
    (done : List (String × SchemaUnit)) : List (String × Value) → m (List (String × SchemaUnit))
  | [] => pure done
  | (pattern, schema) :: rest => do
    let key := MediaType.normalize pattern
    if (done.lookup key).isSome then compileUnits engine direction done rest
    else
      let unit ← SchemaUnit.compile engine direction schema
      compileUnits engine direction (done ++ [(key, unit)]) rest

/-- Build a validator from a content map. -/
def build {m : Type → Type} [Monad m] [MonadExceptOf Failure m] (content : Value)
    (required : Bool) (engine : Engine m) (direction : Direction) : m BodyValidator := do
  let declared ← MonadExcept.ofExcept (entries content)
  return ⟨required, direction, declared.map (·.1), ← compileUnits engine direction [] declared⟩

/-- The declared patterns, in order. -/
def contentTypes (b : BodyValidator) : List String := b.patterns

/-- The unit under a normalized pattern, with the pattern. -/
def unitFor? (b : BodyValidator) (pattern : String) : Option (String × SchemaUnit) :=
  (b.units.lookup pattern).map (pattern, ·)

/-- The unit that serves bodies without a content type. -/
def defaultUnit? (b : BodyValidator) : Option (String × SchemaUnit) :=
  match b.unitFor? MediaType.wildcard with
  | some unit => some unit
  | none =>
    match b.units with
    | [unit] => some unit
    | _ => none

/-- Is the text nothing but blanks? -/
def isBlank (s : String) : Bool := (Text.trim s).isEmpty

/-- The unit that serves a content type, with its normalized pattern. -/
def resolve (b : BodyValidator) (contentType : Option String) : Option (String × SchemaUnit) :=
  match contentType with
  | none => b.defaultUnit?
  | some s =>
    if isBlank s then b.defaultUnit?
    else
      let mediaType := MediaType.normalize s
      (b.unitFor? mediaType).or
        ((b.unitFor? (MediaType.mainPattern mediaType)).or (b.unitFor? MediaType.wildcard))

/-- A required body is missing. -/
def missing (b : BodyValidator) : Failure :=
  .contract { kind := b.errorKind, message := b.direction.title ++ " body is required",
              location := b.location }

/-- No entry serves the content type; in a request this has a status code of its own. -/
def unsupported (b : BodyValidator) (contentType : Option String) : Failure :=
  let subject := contentType.getD ""
  .contract
    { kind := b.errorKind
      message := if subject.isEmpty then "Unsupported media type"
        else "Unsupported media type: " ++ subject
      location := b.location
      code := if b.direction = .request then 415 else b.errorKind.defaultCode }

/-- Turn a rejection by the schema into the validator's error. -/
def typedError (b : BodyValidator) : Failure → Failure
  | .rejected violations => .contract
    { kind := b.errorKind, message := "Schema validation error", location := b.location,
      violations := violations }
  | failure => failure

/-- Check a body that is there. -/
def validatePresent (b : BodyValidator) (body : Value) (contentType : Option String) :
    Except Failure PUnit :=
  match b.resolve contentType with
  | none => throw (b.unsupported contentType)
  | some (_, unit) => (unit.validate body).mapError b.typedError

/-- Check a body; null stands for no body. -/
def validate (b : BodyValidator) (body : Value) (contentType : Option String) :
    Except Failure PUnit :=
  if body.isNull then (if b.required then throw b.missing else pure ⟨⟩)
  else b.validatePresent body contentType

/-! ## Content types that are no texts -/

/-- The content type that a value stands for: null for none, otherwise it has to be a text. -/
def contentTypeOf : Value → Except Failure (Option String)
  | .null => .ok none
  | .str s => .ok (some s)
  | _ => stop .wrongShape

/-- Check a body under any value as its content type, which is looked at only when there is a body. -/
def validateUnder (b : BodyValidator) (body contentType : Value) : Except Failure PUnit :=
  if body.isNull then b.validate body none
  else do b.validatePresent body (← contentTypeOf contentType)

end BodyValidator

end ApiContract
