import ApiContract.Pattern.Reader
import ApiContract.Pattern.Search
import ApiContract.Schema.Keyword
import ApiContract.Schema.Outcome

/-!
# Applying schemas

A rule says what one keyword demands of a value. Where the keyword holds further schemas, the rule
hands them, with parts of the value, to a judge.
-/

namespace ApiContract.Schema

/-- What the rules share that apply to one schema: the dialect and the direction of the check, the
schema in which references are looked up, and the draft that the schema or one around it declares. -/
structure Context where
  dialect : Dialect
  direction : Direction
  root : Value
  draft : Option Draft

namespace Context

/-- The dialect whose rules hold: those of the drafts are closer to the later one. -/
def reading (ctx : Context) : Dialect :=
  match ctx.draft with
  | none => ctx.dialect
  | some _ => .v31

/-- The keyword that is checked under a name. -/
def keyword? (ctx : Context) (name : String) : Option Keyword :=
  match ctx.draft with
  | none => Keyword.named? ctx.dialect name
  | some draft => (Keyword.drafted draft).lookup name

/-- Inside a schema with the given fields, the draft that it declares takes the place of the one
declared around it. -/
def inside (ctx : Context) (fields : Fields) : Except Fault Context := do
  match ← Draft.declared? fields with
  | none => return ctx
  | some draft => return { ctx with draft := some draft }

/-- Inside a schema; what is no object declares no draft. -/
def insideSchema (ctx : Context) : Value → Except Fault Context
  | .object fields => ctx.inside fields
  | _ => .ok ctx

/-- The fields of an inner schema that are looked at. Where a draft up to the seventh is declared
around it, a reference hides what stands beside it. -/
def applicable (ctx : Context) (fields : Fields) : Fields :=
  match ctx.draft, Value.lookup fields "$ref" with
  | _, none | none, _ | _, some .null => fields
  | some draft, some reference =>
    if draft.number ≤ Draft.draft7.number then [(.str "$ref", reference)] else fields

end Context

/-- Applies a schema, given by its fields, to a value. -/
abbrev Judge := Fields → Value → Outcome

/-- Apply a schema to a value: `true` admits everything and `false` nothing. -/
def Judge.apply (judge : Judge) (schema v : Value) : Outcome :=
  match schema with
  | .object fields => judge fields v
  | .bool true => .valid
  | .bool false => .violated (.refused v)
  | _ => .stopped .wrongShape

/-- Apply a schema to a part of a value. The refusal by `false` is reported where the whole stands,
any other violation where the part does. -/
def Judge.applyAt (judge : Judge) (step : Step) (schema part : Value) : Outcome :=
  match schema with
  | .bool false => .violated (.refused part)
  | _ => (judge.apply schema part).under step

/-- Is the value valid under the schema? -/
def Judge.holds (judge : Judge) (schema v : Value) : Except Fault Bool :=
  (judge.apply schema v).holds

/-- The parts that a keyword's value is made of: the items of a list, the characters of a text, or
the keys of an object. -/
def partsOf : Value → Except Fault (List Value)
  | .list items => .ok items
  | .str s => .ok (s.toList.map fun c => .str (String.singleton c))
  | .object fields => .ok (fields.map fun f => .scalar f.1)
  | _ => .error .wrongShape

/-- The members of a keyword's value, which has to be an object. -/
def membersOf : Value → Except Fault Fields
  | .object fields => .ok fields
  | _ => .error .wrongShape

/-- Does a value occur as a property name? A list or an object cannot be asked about. -/
def isPropertyOf (object : Fields) : Value → Except Fault Bool
  | .str name => .ok (Value.hasField object name)
  | .scalar _ => .ok false
  | _ => .error .wrongShape

/-- Does the pattern, which has to be a well-formed text, occur in the text? -/
def occurs (pattern : Value) (s : String) : Except Fault Bool :=
  match pattern with
  | .str p =>
    match Pattern.read? p with
    | some node => .ok (node.occursIn s)
    | none => .error .badPattern
  | _ => .error .wrongShape

/-- The elements of a list that satisfy a condition. -/
def filterM {α : Type} (ok : α → Except Fault Bool) : List α → Except Fault (List α)
  | [] => .ok []
  | x :: rest => do
    let keep ← ok x
    let kept ← filterM ok rest
    return if keep then x :: kept else kept

/-- Does some element satisfy a condition? The elements behind the first that does are not asked. -/
def anyM {α : Type} (ok : α → Except Fault Bool) : List α → Except Fault Bool
  | [] => .ok false
  | x :: rest => do if ← ok x then return true else anyM ok rest

end ApiContract.Schema
