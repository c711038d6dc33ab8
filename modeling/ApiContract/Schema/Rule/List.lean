import ApiContract.Schema.Rule.Scalar
import ApiContract.Value.Unique

/-!
# Rules about lists

The number and the uniqueness of items, the schemas of items by position and of those behind them, and
the items that have to occur.
-/

namespace ApiContract.Schema.Rule

/-- `minItems` and `maxItems`. -/
def listSize (bound : Bound) (limit v : Value) : Outcome :=
  match v with
  | .list items => sizeBound bound items.length limit (.listSize bound v limit)
  | _ => .valid

/-- `uniqueItems`: a truthy value asks for unique items. -/
def uniqueItems (asked v : Value) : Outcome :=
  match v with
  | .list items => .require (!asked.truthy || Value.unique items) (.notUnique v)
  | _ => .valid

/-- One schema for each item, with the position of the first. -/
def eachItem (judge : Judge) (schema : Value) (start : Nat) (items : List Value) : Outcome :=
  .each (fun p => judge.applyAt (.index p.2) schema p.1) (items.zipIdx start)

/-- The schemas of the first items, by position. -/
def itemsByPosition (judge : Judge) (schemas : Value) (items : List Value) : Outcome :=
  .ofResult do
    let schemas ← partsOf schemas
    return .each (fun p => judge.applyAt (.index p.2) p.1.2 p.1.1) (items.zip schemas).zipIdx

/-- The number of positions that have a schema of their own under the given name. -/
def positions (siblings : Fields) (name : String) : Except Fault Nat :=
  match Value.lookup siblings name with
  | none => .ok 0
  | some v => do return (← partsOf v).length

/-- `items` in the later dialect: the items behind the positions that have a schema of their own. -/
def itemsBehind (judge : Judge) (siblings : Fields) (schema : Value) (items : List Value) :
    Outcome :=
  .ofResult do
    let n ← positions siblings "prefixItems"
    let extra := items.drop n
    return match extra, schema with
      | [], _ => .valid
      | _, .bool false => .violated (.extraItems n extra)
      | _, _ => eachItem judge schema n extra

/-- Are schemas by position meant? Up to the fourth draft everything else than a schema stands for
them, and only a list later. -/
def isPositional (draft : Draft) (schema : Value) : Bool :=
  if draft.number ≤ Draft.draft4.number then !schema.isObject else schema.items?.isSome

/-- `items`: in the earlier dialect every item, and in the drafts before the last one every item too,
unless there are schemas by position. -/
def items (ctx : Context) (judge : Judge) (siblings : Fields) (schema v : Value) : Outcome :=
  match v with
  | .list items =>
    match ctx.draft, ctx.dialect with
    | none, .v30 => eachItem judge schema 0 items
    | none, .v31 | some .draft202012, _ => itemsBehind judge siblings schema items
    | some draft, _ =>
      if isPositional draft schema then itemsByPosition judge schema items
      else eachItem judge schema 0 items
  | _ => .valid

/-- `prefixItems`: the schemas of the first items, by position. -/
def prefixItems (judge : Judge) (schemas v : Value) : Outcome :=
  match v with
  | .list items => itemsByPosition judge schemas items
  | _ => .valid

/-- One schema for each item behind the others, with the position of the first, or their
prohibition. -/
def extraItems (judge : Judge) (schema : Value) (start : Nat) (extra : List Value) : Outcome :=
  match schema with
  | .object _ => eachItem judge schema start extra
  | _ => .require (schema.truthy || extra.isEmpty) (.additionalItems extra)

/-- `additionalItems`: the items behind those that have a schema by position. -/
def additionalItems (judge : Judge) (siblings : Fields) (schema v : Value) : Outcome :=
  match v, Value.lookup siblings "items" with
  | .list _, none | .list _, some (.object _) => .valid
  | .list items, some _ =>
    .ofResult do
      let n ← positions siblings "items"
      return extraItems judge schema n (items.drop n)
  | _, _ => .valid

/-- A number that limits how many items may match. -/
def limitOf (siblings : Fields) (name : String) (fallback : Nat) : Value :=
  (Value.lookup siblings name).getD (.int fallback)

/-- Is the count smaller than the limit, which has to be worth a number? -/
def countBelow (count : Nat) (limit : Value) : Except Fault Bool :=
  match limit.number? with
  | some y => .ok (Number.lt (.int count) y)
  | none => .error .wrongShape

/-- Does the count exceed the limit, which has to be worth a number? -/
def countAbove (count : Nat) (limit : Value) : Except Fault Bool :=
  match limit.number? with
  | some y => .ok (y.lt (.int count))
  | none => .error .wrongShape

/-- The number of items that are valid under the schema; nothing as soon as it exceeds the limit. -/
def countMatches (judge : Judge) (schema greatest : Value) :
    Nat → List Value → Except Fault (Option Nat)
  | count, [] => .ok (some count)
  | count, v :: rest => do
    if ← judge.holds schema v then
      if ← countAbove (count + 1) greatest then return none
      else countMatches judge schema greatest (count + 1) rest
    else countMatches judge schema greatest count rest

/-- Can the value stand where a schema is expected? A text or a list is found out only when it is
applied. -/
def maybeSchema : Value → Bool
  | .bool _ | .str _ | .list _ | .object _ => true
  | _ => false

/-- `contains`, where items can be counted: enough of them are valid under the schema, and not too
many. -/
def containsCounted (judge : Judge) (siblings : Fields) (schema v : Value) : Outcome :=
  match v with
  | .list items =>
    let least := limitOf siblings "minContains" 1
    let greatest := limitOf siblings "maxContains" items.length
    .ofResult do
      if !maybeSchema schema then throw .wrongShape
      match ← countMatches judge schema greatest 0 items with
      | none => return .violated (.tooManyContained greatest)
      | some count =>
        if ← countBelow count least then
          return .violated (if count = 0 then .notContained v else .tooFewContained least count)
        else return .valid
  | _ => .valid

/-- `contains` in the sixth and the seventh draft: some item is valid under the schema. -/
def containsSome (judge : Judge) (schema v : Value) : Outcome :=
  match v with
  | .list items =>
    .ofResult do return .require (← anyM (fun item => judge.holds schema item) items) (.noneContained v)
  | _ => .valid

/-- `contains`. -/
def contains (ctx : Context) (judge : Judge) (siblings : Fields) (schema v : Value) : Outcome :=
  match ctx.draft with
  | some .draft6 | some .draft7 => containsSome judge schema v
  | _ => containsCounted judge siblings schema v

end ApiContract.Schema.Rule
