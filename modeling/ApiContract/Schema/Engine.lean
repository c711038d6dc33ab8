import ApiContract.Failure.ContractError
import ApiContract.Options
import ApiContract.Schema.Evaluate
import ApiContract.Schema.Prepare
import ApiContract.Schema.Strict

/-!
# Schema engines

An engine compiles a schema for a direction into a check. Everything that is built from schemas is
built over an arbitrary engine in an arbitrary monad, so that compilation can also be observed. The
standard engine checks by evaluation; the other engines answer every check alike.
-/

namespace ApiContract

/-- What a check answers: a verdict, and violations that support it. -/
structure Verdict where
  valid : Bool
  violations : List Violation
  deriving DecidableEq

/-- A compiled schema as a function of the value to be checked. -/
abbrev Check := Value → Except Failure Verdict

/-- A way to compile schemas. -/
structure Engine (m : Type → Type) where
  compile : Direction → Value → m Check

namespace Engine

/-- The violations that the options ask for, and the verdict that there are none. -/
def verdict (options : EngineOptions) (outcome : Outcome) : Except Failure Verdict :=
  match if options.allErrors then outcome.all else outcome.first with
  | .ok violations => .ok ⟨violations.isEmpty, violations⟩
  | .error f => stop f

/-- Can the value be a schema at all? -/
def isSchema (schema : Value) : Bool := schema.isObject || schema.isBool

/-- Compile a schema by preparing it; in strict mode it must not have problems. The earlier dialect
has no use for a truth value in place of a whole schema. -/
def compileSchema (options : EngineOptions) (version : Option String) (direction : Direction)
    (schema : Value) : Except Failure Check := do
  let dialect := Dialect.ofVersion version
  if !isSchema schema then throw (.contract (.schemaNotObject schema))
  if options.strict then
    match Schema.problems dialect schema with
    | first :: rest => throw (.contract (.strictProblems first rest))
    | [] => pure ()
  match Schema.preparedFor direction schema with
  | .error f => stop f
  | .ok prepared =>
    -- Preparing comes first, so that a schema that cannot be prepared fails in either dialect.
    if dialect = .v30 ∧ schema.isBool then stop .wrongShape
    else return fun v => verdict options (Schema.check dialect direction prepared v)

/-- The engine for a document of the given version. -/
def standard (options : EngineOptions) (version : Option String) : Engine (Except Failure) where
  compile := compileSchema options version

/-- The same engine where more can happen than failure. -/
def lift {m n : Type → Type} [MonadLiftT m n] (engine : Engine m) : Engine n where
  compile direction schema := liftM (engine.compile direction schema)

/-- An engine whose checks all give the same answer. -/
def constant {m : Type → Type} [Pure m] (answer : Except Failure Verdict) : Engine m where
  compile _ _ := pure fun _ => answer

/-- An engine that refuses every value and does not say why. -/
def silent {m : Type → Type} [Pure m] : Engine m := constant (.ok ⟨false, []⟩)

/-- An engine whose checks all fail. -/
def broken {m : Type → Type} [Pure m] : Engine m := constant (stop .brokenEngine)

/-- A call of an engine: what was compiled, and the settings of the engine that was asked. -/
structure Compilation where
  schema : Value
  direction : Direction
  options : EngineOptions
  version : Option String
  deriving DecidableEq

/-- An engine that admits every value and keeps a record of what it compiles, in order. -/
def recording (options : EngineOptions) (version : Option String) :
    Engine (StateT (List Compilation) (Except Failure)) where
  compile direction schema := do
    modify (· ++ [⟨schema, direction, options, version⟩])
    return fun _ => .ok ⟨true, []⟩

end Engine

/-- A schema that has been compiled for a direction. -/
structure SchemaUnit where
  schema : Value
  direction : Direction
  check : Check

namespace SchemaUnit

/-- Compile a schema. -/
def compile {m : Type → Type} [Monad m] (engine : Engine m) (direction : Direction)
    (schema : Value) : m SchemaUnit := do
  return ⟨schema, direction, ← engine.compile direction schema⟩

/-- Refuse a value that the check does not find valid, with the violations that the check names. -/
def validate (unit : SchemaUnit) (v : Value) : Except Failure PUnit := do
  let verdict ← unit.check v
  if verdict.valid then return ⟨⟩ else throw (.rejected verdict.violations)

end SchemaUnit

end ApiContract
