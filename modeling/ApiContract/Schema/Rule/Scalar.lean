import ApiContract.Format.Registry
import ApiContract.Schema.Judge
import ApiContract.Value.Equality

/-!
# Rules about scalars and whole values

The bounds of numbers, the size and the form of texts, the type of a value, and the values that are
listed. A rule about one kind of value is kept by every value of another kind.
-/

namespace ApiContract.Schema.Rule

/-- A bound is missed when the number lies beyond it, or on it where that is not allowed either. -/
def missesBound (bound : Bound) (orEqual : Bool) (x limit : Number) : Bool :=
  match bound, orEqual with
  | .least, false => x.lt limit
  | .least, true => x.le limit
  | .greatest, false => limit.lt x
  | .greatest, true => limit.le x

/-- A number within a bound. -/
def numberBound (bound : Bound) (orEqual : Bool) (limit v : Value) : Outcome :=
  match v.properNumber? with
  | none => .valid
  | some x =>
    match limit.number? with
    | none => .stopped .wrongShape
    | some y => .require (!missesBound bound orEqual x y) (.beyond bound orEqual v limit)

/-- The keyword that makes a bound exclusive where exclusive bounds have no limit of their own. -/
def exclusiveName : Bound → String
  | .least => "exclusiveMinimum"
  | .greatest => "exclusiveMaximum"

/-- Are bounds read as they were at first, and numbers too? So they are in the earlier dialect and in
the drafts up to the fourth. -/
def readsEarly (ctx : Context) : Bool :=
  match ctx.draft with
  | none => ctx.dialect = .v30
  | some draft => draft.number ≤ Draft.draft4.number

/-- `minimum` and `maximum`: at first a truthy sibling made the bound exclusive. -/
def inclusiveBound (ctx : Context) (siblings : Fields) (bound : Bound) (limit v : Value) :
    Outcome :=
  let orEqual := readsEarly ctx && Value.truthy? (Value.lookup siblings (exclusiveName bound))
  numberBound bound orEqual limit v

/-- Is the first number a whole multiple of the second? A binary64 divisor divides in binary64, and
exactly only when the quotient is too large; an integer divisor leaves an exact remainder. -/
def isMultiple (x : Number) : Number → Except Fault Bool
  | .float d =>
    match x.toBinary64? with
    | none => .error .tooLarge
    | some y =>
      match y.div? d with
      | none => .error .divisionByZero
      | some .nan => .error .badValue
      | some (.infinite _) =>
        match x.toRat?, d.toRat? with
        | some p, some q => .ok ((p / q).den == 1)
        | _, _ => .error .tooLarge
      | some q => .ok q.isIntegral
  | .int d =>
    match x with
    | .int n => if d = 0 then .error .divisionByZero else .ok (n % d == 0)
    | .float y =>
      match (Binary64.ofInt? d).bind Binary64.toRat? with
      | none => .error .tooLarge
      | some q =>
        if q = 0 then .error .divisionByZero
        else
          match y.toRat? with
          | some p => .ok ((p / q).den == 1)
          | none => .ok false

/-- `multipleOf`. -/
def multipleOf (divisor v : Value) : Outcome :=
  match v.properNumber? with
  | none => .valid
  | some x =>
    match divisor.number? with
    | none => .stopped .wrongShape
    | some d =>
      .ofResult do return .require (← isMultiple x d) (.notMultiple v divisor)

/-- A size within a bound. -/
def sizeBound (bound : Bound) (size : Nat) (limit : Value) (cause : Cause) : Outcome :=
  match limit.number? with
  | none => .stopped .wrongShape
  | some y => .require (!missesBound bound false (.int size) y) cause

/-- `minLength` and `maxLength`: the number of characters of a text. -/
def textSize (bound : Bound) (limit v : Value) : Outcome :=
  match v with
  | .str s => sizeBound bound s.length limit (.stringSize bound v limit)
  | _ => .valid

/-- `pattern`: the pattern occurs in the text. -/
def pattern (p v : Value) : Outcome :=
  match v with
  | .str s => .ofResult do return .require (← occurs p s) (.noMatch v p)
  | _ => .valid

/-- `format`: a format that the dialect does not know is kept by every value. -/
def format (ctx : Context) (name v : Value) : Outcome :=
  if ctx.reading = .v30 ∧ v = .null then .valid
  else
    match name with
    | .str s =>
      match Format.named? ctx.dialect s with
      | none => .valid
      | some f => .ofResult do return .require (← f.admits v) (.notOfFormat v name)
    | .scalar _ => .valid
    | _ => .stopped .wrongShape

/-- Is the value of the type? An integral binary64 number was no integer at first, and in the earlier
dialect null is no type. -/
def isOfType (ctx : Context) (v type : Value) : Except Fault Bool :=
  match type with
  | .str "string" => .ok v.string?.isSome
  | .str "number" => .ok v.properNumber?.isSome
  | .str "integer" =>
    match v with
    | .int _ => .ok true
    | .float x => .ok (!readsEarly ctx && x.isIntegral)
    | _ => .ok false
  | .str "boolean" => .ok v.isBool
  | .str "array" => .ok v.items?.isSome
  | .str "object" => .ok v.isObject
  | .str "null" => if ctx.reading = .v31 then .ok v.isNull else .error .unknownType
  | .scalar _ => .error .unknownType
  | _ => .error .wrongShape

/-- `type` in the earlier dialect: one type, and null besides where the schema says so. -/
def singleType (ctx : Context) (siblings : Fields) (type v : Value) : Outcome :=
  if v = .null ∧ Value.lookup siblings "nullable" = some (.bool true) then .valid
  else
    (if v = .null then .violated .notNullable else .valid : Outcome).andThen fun _ =>
      .ofResult do return .require (← isOfType ctx v type) (.wrongType v [type])

/-- One type or several. -/
def typesOf (type : Value) : Except Fault (List Value) :=
  match type with
  | .str _ => .ok [type]
  | _ => partsOf type

/-- `type` in the later dialect and in most drafts: one type or several. -/
def anyType (ctx : Context) (type v : Value) : Outcome :=
  .ofResult do
    let types ← typesOf type
    return .require (← anyM (isOfType ctx v) types) (.wrongType v types)

/-- `enum`: the value equals one of those listed. -/
def enum (allowed v : Value) : Outcome :=
  .ofResult do
    let values ← partsOf allowed
    return .require (values.any (·.equal v)) (.notListed v allowed)

/-- `const`: the value equals the given one. -/
def const (expected v : Value) : Outcome :=
  .require (v.equal expected) (.notConstant expected)

/-- `readOnly` and `writeOnly`: a truthy flag refuses every value in the direction that it hides. -/
def visibility (ctx : Context) (flag : Visibility) (flagged : Value) : Outcome :=
  .require (!flagged.truthy || flag.allowedIn = ctx.direction) (.hidden flag ctx.direction)

end ApiContract.Schema.Rule
