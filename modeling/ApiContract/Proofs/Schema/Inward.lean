import ApiContract.Proofs.Value.Keys
import ApiContract.Schema.Prepare
import ApiContract.Schema.Strict
import Mathlib.Data.List.Basic

/-!
# Changes that are carried inwards

A change of schemas that is carried on to the schemas inside them finds these where preparation and
strict mode look for them. What a schema hides and what strict mode has against it are then known
from what the change does to a flag and to the fields of one schema.
-/

namespace ApiContract

/-- What stands at a place, with a change of the schemas there. -/
def Place.map (change : Value → Value) (place : Place) (v : Value) : Value :=
  match place, v with
  | .schema, .list items => .list (items.map change)
  | .schema, v => change v
  | .schemaList, .list items => .list (items.map change)
  | .schemaMap, .object members => .object (members.map fun f => (f.1, change f.2))
  | _, v => v

namespace Schema

/-! ## The problems of a field -/

section

variable (dialect : Dialect) (pointer : String)

-- Only a format is looked at; of other fields, only the name is.
theorem fieldProblems_of_ne_format {name : String} (hname : name ≠ "format") (v : Value) :
    fieldProblems dialect pointer (.str name, v) =
      if name.startsWith "x-" then []
      else if knowsKeyword dialect name then [] else [.here (.unknownKeyword name pointer)] := by
  unfold fieldProblems
  dsimp only
  refine if_congr Iff.rfl rfl ?_
  generalize (if knowsKeyword dialect name then [] else [.here (.unknownKeyword name pointer)] :
    List Violation) = found
  split
  · exact absurd rfl hname
  · rw [List.append_nil]

theorem fieldProblems_congr {key : Scalar} {v w : Value} (h : key = .str "format" → v = w) :
    fieldProblems dialect pointer (key, v) = fieldProblems dialect pointer (key, w) := by
  by_cases hformat : key = .str "format"
  · rw [h hformat]
  · cases key with
    | str name =>
      have hname : name ≠ "format" := fun hname => hformat (hname ▸ rfl)
      rw [fieldProblems_of_ne_format dialect pointer hname,
        fieldProblems_of_ne_format dialect pointer hname]
    | _ => rfl

end

/-! ## Changes -/

/-- A change of schemas, and of the fields of one. What is no object stays as it is, and under the
names of schemas there is what stood there, with the schemas in it changed. -/
structure Inward (change : Value → Value) (ofFields : Fields → Fields) : Prop where
  scalar : ∀ s, change (.scalar s) = .scalar s
  list : ∀ items, change (.list items) = .list items
  object : ∀ fields, change (.object fields) = .object (ofFields fields)
  lookup : ∀ fields, ∀ name ∈ placeNames, Value.lookup (ofFields fields) name =
    (Value.lookup fields name).map ((Place.ofName name).map change)

namespace Inward

variable {change : Value → Value} {ofFields : Fields → Fields} {flag flag' : Visibility}
  {fields : Fields}

/-! ### Hidden names -/

-- A schema that hides the properties that it hid, where the flags of the properties count as before.
theorem hiddenNames_eq (h : Inward change ofFields) (v : Value)
    (hflagged : ∀ members, v.member? "properties" = some (.object members) →
      ∀ f ∈ members, isFlagged flag' (change f.2) = isFlagged flag f.2) :
    hiddenNames flag' (change v) = hiddenNames flag v := by
  cases v with
  | scalar s => rw [h.scalar]; rfl
  | list items => rw [h.list]; rfl
  | object fields =>
    rw [h.object, hiddenNames, hiddenNames, Value.member?, Value.member?,
      h.lookup fields "properties" (by decide)]
    rw [Value.member?] at hflagged
    cases hproperties : Value.lookup fields "properties" with
    | none => rfl
    | some properties =>
      cases properties with
      | scalar s => rfl
      | list items => rfl
      | object members =>
        have hmembers := hflagged members hproperties
        rw [Option.map_some, show Place.ofName "properties" = .schemaMap from rfl]
        simp only [Place.map, flaggedNames, List.filterMap_map]
        refine List.filterMap_congr fun f hf => ?_
        obtain ⟨key, v⟩ := f
        have hflag := hmembers _ hf
        cases key <;> simp only [Function.comp_apply, hflag]

-- The same for all names that are hidden in a schema.
theorem hiddenAt_eq (h : Inward change ofFields) (inherited : List String)
    (hnames : hiddenNames flag' (change (.object fields)) = hiddenNames flag (.object fields))
    (hbranches : ∀ branches, Value.lookup fields "allOf" = some (.list branches) →
      ∀ v ∈ branches, hiddenNames flag' (change v) = hiddenNames flag v) :
    hiddenAt flag' inherited (ofFields fields) = hiddenAt flag inherited fields := by
  have hinside : hiddenInBranches flag' (ofFields fields) = hiddenInBranches flag fields := by
    rw [hiddenInBranches, hiddenInBranches, h.lookup fields "allOf" (by decide)]
    cases hallOf : Value.lookup fields "allOf" with
    | none => rfl
    | some branches =>
      cases branches with
      | scalar s => rfl
      | object members => rfl
      | list items =>
        have hitems := hbranches items hallOf
        rw [Option.map_some, show Place.ofName "allOf" = .schemaList from rfl]
        simp only [Place.map, List.flatMap_map]
        exact List.flatMap_congr hitems
  rw [h.object] at hnames
  rw [hiddenAt, hiddenAt, hnames, hinside]

/-! ### Problems -/

-- The schemas inside a changed schema are the changed ones, at the same pointers.
theorem schemasUnder_eq (h : Inward change ofFields) (pointer : String) {name : String}
    (hname : name ∈ placeNames) :
    schemasUnder pointer name (ofFields fields) =
      (schemasUnder pointer name fields).map fun q => (q.1, change q.2) := by
  unfold schemasUnder
  rw [h.lookup fields name hname]
  cases Value.lookup fields name with
  | none => cases Place.ofName name <;> rfl
  | some v =>
    cases hplace : Place.ofName name with
    | data => rfl
    | schemaMap =>
      cases v with
      | object members =>
        simp only [Option.map_some, Place.map, List.map_map]
        rfl
      | _ => rfl
    | schemaList =>
      cases v with
      | list items =>
        simp only [Option.map_some, Place.map, List.map_map, List.zipIdx_map]
        rfl
      | _ => rfl
    | schema =>
      cases v with
      | list items =>
        simp only [Option.map_some, Place.map, List.map_map, List.zipIdx_map]
        rfl
      | scalar s => simp only [Option.map_some, Place.map, List.map, h.scalar]
      | object members => simp only [Option.map_some, Place.map, List.map, h.object]

theorem innerSchemas_eq (h : Inward change ofFields) (pointer : String) (fields : Fields) :
    innerSchemas pointer (ofFields fields) =
      (innerSchemas pointer fields).map fun q => (q.1, change q.2) := by
  rw [innerSchemas, innerSchemas, List.map_flatMap]
  exact List.flatMap_congr fun name hname => h.schemasUnder_eq pointer hname

-- A changed schema has the problems of the schema, where the fields of any one schema have.
theorem problemsWithin_eq (h : Inward change ofFields) (dialect : Dialect)
    (hfields : ∀ pointer fields, (ofFields fields).flatMap (fieldProblems dialect pointer) =
      fields.flatMap (fieldProblems dialect pointer)) (depth : Nat) (pointer : String) (v : Value) :
    problemsWithin dialect depth pointer (change v) = problemsWithin dialect depth pointer v := by
  induction depth generalizing pointer v with
  | zero => simp only [problemsWithin]
  | succ depth ih =>
    cases v with
    | scalar s => rw [h.scalar]
    | list items => rw [h.list]
    | object fields =>
      rw [h.object, problemsWithin, problemsWithin, hfields, h.innerSchemas_eq, List.flatMap_map]
      simp only [ih]

end Inward

end Schema

end ApiContract
