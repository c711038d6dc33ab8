import ApiContract.Schema.Reference
import ApiContract.Schema.Rule.Branch
import ApiContract.Schema.Rule.List
import ApiContract.Schema.Rule.Object

/-!
# Rules about what no other keyword has looked at

A property or an item counts as evaluated when a keyword of the schema applies to it, or of a schema
that the schema leads to: through a reference, a chosen condition, or a branch under which the value
is valid. What is left is the concern of `unevaluatedProperties` and `unevaluatedItems`. Which keywords
lead where is settled by the draft of the schema that asks, `asking` below; the schemas that they lead to
are judged in the context to which references have led.
-/

namespace ApiContract.Schema.Rule

/-- The schemas in the lists under the three combining keywords. -/
def branchesOf (fields : Fields) (names : List String) : Except Fault (List Value) := do
  let lists ← names.mapM fun name => match Value.lookup fields name with
    | some v => partsOf v
    | none => .ok []
  return lists.flatten

/-- The keywords that lead to other schemas. In the draft of 2019 the second one leads to the whole. -/
def referenceNames (draft : Option Draft) : List String :=
  if draft = some .draft201909 then ["$ref", "$recursiveRef"] else ["$ref", "$dynamicRef"]

/-- The schema to which a schema refers by the given keyword. -/
def referred? (ctx : Context) (fields : Fields) (name : String) : Except Fault (Option Value) :=
  match Value.lookup fields name with
  | none => .ok none
  | some arg =>
    if name = "$recursiveRef" then .ok (some ctx.root)
    else
      match arg with
      | .null => .ok none
      | _ => do return some (← resolveValue ctx.root arg)

/-- What a search finds in each of several places. -/
def foundIn {α γ : Type} (find : α → Except Fault (List γ)) (places : List α) :
    Except Fault (List γ) := do
  return (← places.mapM find).flatten

/-- What a search finds in the schema to which a schema refers by the given keyword. The draft that it
declares counts there. -/
def foundByReference {γ : Type} (find : Context → Value → Except Fault (List γ)) (ctx : Context)
    (fields : Fields) (name : String) : Except Fault (List γ) := do
  match ← referred? ctx fields name with
  | none => return []
  | some s => find (← ctx.insideSchema s) s

/-- The schemas that a condition brings in: itself where it holds, and the one that it chooses. -/
def conditionalSchemas (judge : Judge) (fields : Fields) (v : Value) :
    Except Fault (List Value) := do
  match Value.lookup fields "if" with
  | none => return []
  | some condition =>
    if ← judge.holds condition v then return condition :: (chosen fields true).toList
    else return (chosen fields false).toList

/-- The valid ones among the branches. -/
def validBranches (judge : Judge) (fields : Fields) (v : Value) : Except Fault (List Value) := do
  filterM (fun schema => judge.holds schema v) (← branchesOf fields ["allOf", "oneOf", "anyOf"])

/-! ## Items -/

/-- The indices of the items that are valid under the schema of a keyword. -/
def indicesUnder (judge : Judge) (fields : Fields) (items : List Value) (name : String) :
    Except Fault (List Nat) :=
  match Value.lookup fields name with
  | none => .ok []
  | some schema => do
    return (← filterM (fun p => judge.holds schema p.1) items.zipIdx).map (·.2)

/-- Has `items` looked at every item? In the draft of 2019 it may be about the first items only. -/
def itemsCover (asking : Option Draft) (fields : Fields) : Bool :=
  match Value.lookup fields "items" with
  | none => false
  | some schema =>
    asking != some .draft201909 || Value.hasField fields "additionalItems" || schema.isObject

/-- The keyword with the schemas of the first items, by position. -/
def positionsName (asking : Option Draft) : String :=
  if asking = some .draft201909 then "items" else "prefixItems"

/-- The indices of the items that a schema evaluates. Each schema that it leads to takes one from
the depth. -/
def evaluatedIndices (asking : Option Draft) (judges : Context → Judge) :
    Nat → Context → Value → List Value → Except Fault (List Nat)
  | 0, _, _, _ => .error .endlessReference
  | depth + 1, ctx, schema, items =>
    match schema with
    | .bool _ => .ok []
    | .object fields => do
      let v := Value.list items
      let within := foundIn (evaluatedIndices asking judges depth ctx · items)
      let referred :=
        foundIn (foundByReference (evaluatedIndices asking judges depth · · items) ctx fields)
          (referenceNames asking)
      if itemsCover asking fields then
        -- In the draft of 2019 references are followed first and may come to nothing.
        if asking = some .draft201909 then let _ ← referred
        return List.range items.length
      else
        let referred ← referred
        let first ← positions fields (positionsName asking)
        let conditional ← within (← conditionalSchemas (judges ctx) fields v)
        let contained ← indicesUnder (judges ctx) fields items "contains"
        let unevaluated ← indicesUnder (judges ctx) fields items "unevaluatedItems"
        let branches ← within (← validBranches (judges ctx) fields v)
        return referred ++ List.range first ++ conditional ++ contained ++ unevaluated ++ branches
    | _ => .error .wrongShape

/-- `unevaluatedItems`: no item is left over, or it is valid under the keyword's schema. -/
def unevaluatedItems (ctx : Context) (judges : Context → Judge) (depth : Nat) (siblings : Fields)
    (v : Value) : Outcome :=
  match v with
  | .list items =>
    .ofResult do
      let evaluated ← evaluatedIndices ctx.draft judges depth ctx (.object siblings) items
      let left := (items.zipIdx.filter fun p => !evaluated.contains p.2).map (·.1)
      return .require left.isEmpty (.unevaluatedItems left)
  | _ => .valid

/-! ## Properties -/

/-- The properties that `properties` declares. -/
def declaredNames (siblings : Fields) (fields : Fields) : List String :=
  match Value.lookup siblings "properties" with
  | some (.object declared) =>
    ((namedFields fields).map (·.1)).filter (Value.hasField declared)
  | _ => []

/-- The properties that are valid under the schema of a keyword; null counts as no schema. -/
def namesUnder (judge : Judge) (siblings : Fields) (fields : Fields) (name : String) :
    Except Fault (List String) :=
  match Value.lookup siblings name with
  | none | some .null => .ok []
  | some schema => do
    return (← filterM (fun p => judge.holds schema p.2) (namedFields fields)).map (·.1)

/-- The properties in whose name a pattern of `patternProperties` occurs. -/
def patternNames (siblings : Fields) (fields : Fields) : Except Fault (List String) :=
  match Value.lookup siblings "patternProperties" with
  | none => .ok []
  | some patterns => do
    let names := (namedFields fields).map (·.1)
    if names.isEmpty then return []
    let patterns ← partsOf patterns
    filterM (fun name => do
      return !(← filterM (fun p => occurs p name) patterns).isEmpty) names

/-- The schemas that `dependentSchemas` brings in. -/
def dependentOf (siblings : Fields) (fields : Fields) : Except Fault (List Value) :=
  match Value.lookup siblings "dependentSchemas" with
  | none => .ok []
  | some demands => do return (demandsMet fields (← membersOf demands)).map (·.2)

/-- The names of the properties that a schema evaluates. Each schema that it leads to takes one from
the depth. -/
def evaluatedNames (asking : Option Draft) (judges : Context → Judge) :
    Nat → Context → Value → Fields → Except Fault (List String)
  | 0, _, _, _ => .error .endlessReference
  | depth + 1, ctx, schema, fields =>
    match schema with
    | .bool _ => .ok []
    | .object siblings => do
      let v := Value.object fields
      let within := foundIn (evaluatedNames asking judges depth ctx · fields)
      let referred ←
        foundIn (foundByReference (evaluatedNames asking judges depth · · fields) ctx siblings)
          (referenceNames asking)
      let declared := declaredNames siblings fields
      let additional ← namesUnder (judges ctx) siblings fields "additionalProperties"
      let unevaluated ← namesUnder (judges ctx) siblings fields "unevaluatedProperties"
      let matched ← patternNames siblings fields
      let dependent ← within (← dependentOf siblings fields)
      let branches ← within (← validBranches (judges ctx) siblings v)
      let conditional ← within (← conditionalSchemas (judges ctx) siblings v)
      return referred ++ declared ++ additional ++ unevaluated ++ matched ++ dependent ++
        branches ++ conditional
    | _ => .error .wrongShape

/-- The names of the properties that violate a schema, once for each violation. -/
def offenders (judge : Judge) (schema : Value) :
    List (String × Value) → Except Fault (List String)
  | [] => .ok []
  | (name, v) :: rest => do
    let violations ← (judge.apply schema v).all
    return violations.map (fun _ => name) ++ (← offenders judge schema rest)

/-- `unevaluatedProperties`: no property is left over, or it is valid under the keyword's schema. -/
def unevaluatedProperties (ctx : Context) (judges : Context → Judge) (depth : Nat)
    (siblings : Fields) (schema v : Value) : Outcome :=
  match v with
  | .object fields =>
    .ofResult do
      let evaluated ← evaluatedNames ctx.draft judges depth ctx (.object siblings) fields
      let left := (namedFields fields).filter fun p => !evaluated.contains p.1
      let names ← offenders (judges ctx) schema left
      return .require names.isEmpty
        (if schema = .bool false then .unevaluatedProperties (sortTexts names)
          else .invalidUnevaluatedProperties names)
  | _ => .valid

end ApiContract.Schema.Rule
