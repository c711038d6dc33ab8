import ApiContract.Schema.Rule.Scalar

/-!
# Rules that combine schemas

A value has to satisfy all, some, exactly one or none of several schemas, or one schema where it
satisfies another. In the third draft a schema can also take the place of the name of a type.
-/

namespace ApiContract.Schema.Rule

/-- `allOf`: every schema. -/
def allOf (judge : Judge) (schemas v : Value) : Outcome :=
  .ofResult do return .each (fun schema => judge.apply schema v) (← partsOf schemas)

/-- `extends`: a schema, or every schema of a list. -/
def extension (judge : Judge) (schemas v : Value) : Outcome :=
  match schemas with
  | .object _ => judge.apply schemas v
  | _ => allOf judge schemas v

/-- The first schema under which no violation is found, and those behind it. Every schema up to it
is applied to the end. -/
def firstBranch? (judge : Judge) (v : Value) :
    List Value → Except Fault (Option (Value × List Value))
  | [] => .ok none
  | schema :: rest => do
    if (← (judge.apply schema v).all).isEmpty then return some (schema, rest)
    else firstBranch? judge v rest

/-- `anyOf`: some schema. -/
def anyOf (judge : Judge) (schemas v : Value) : Outcome :=
  .ofResult do
    return .require (← firstBranch? judge v (← partsOf schemas)).isSome (.noBranch v)

/-- `oneOf`: exactly one schema. -/
def oneOf (judge : Judge) (schemas v : Value) : Outcome :=
  .ofResult do
    match ← firstBranch? judge v (← partsOf schemas) with
    | none => return .violated (.noBranch v)
    | some (schema, rest) =>
      -- Only the schemas behind the first valid one are tried for a second.
      let others ← filterM (fun other => judge.holds other v) rest
      return .require others.isEmpty (.manyBranches v (others ++ [schema]))

/-- `not`: the schema does not hold. -/
def not (judge : Judge) (schema v : Value) : Outcome :=
  .ofResult do return .require (!(← judge.holds schema v)) (.excluded v schema)

/-- The schema that a condition chooses: `then` where it holds, `else` where it does not. -/
def chosen (siblings : Fields) (holds : Bool) : Option Value :=
  Value.lookup siblings (if holds then "then" else "else")

/-- `if`: the schema that the condition chooses, if there is one. -/
def ifThenElse (judge : Judge) (siblings : Fields) (condition v : Value) : Outcome :=
  .ofResult do
    match chosen siblings (← judge.holds condition v) with
    | some schema => return judge.apply schema v
    | none => return .valid

/-! ## Types -/

/-- Is the value of the type, or valid under the schema that stands in its place? -/
def isOfTypeOrSchema (ctx : Context) (judge : Judge) (v type : Value) : Except Fault Bool :=
  match type with
  | .str "any" => .ok true
  | .object _ => do return (← (judge.apply type v).all).isEmpty
  | _ => isOfType ctx v type

/-- What stands for a type in a message: the name of a schema, if it has one. -/
def typeLabel (type : Value) : Value := (type.member? "name").getD type

/-- `type` in the third draft: one type or several, or schemas. -/
def anyTypeOrSchema (ctx : Context) (judge : Judge) (type v : Value) : Outcome :=
  .ofResult do
    let types ← typesOf type
    return .require (← anyM (isOfTypeOrSchema ctx judge v) types) (.wrongType v (types.map typeLabel))

/-- `type`. -/
def type (ctx : Context) (judge : Judge) (siblings : Fields) (type v : Value) : Outcome :=
  match ctx.draft, ctx.dialect with
  | none, .v30 => singleType ctx siblings type v
  | some .draft3, _ => anyTypeOrSchema ctx judge type v
  | _, _ => anyType ctx type v

/-- `disallow`: none of the types or schemas. -/
def disallow (ctx : Context) (judge : Judge) (types v : Value) : Outcome :=
  .ofResult do
    return .each (fun type => .ofResult do
      return .require (!(← isOfTypeOrSchema ctx judge v type)) (.disallowed v type)) (← typesOf types)

end ApiContract.Schema.Rule
