import ApiContract.Proofs.Operation.Built
import ApiContract.Proofs.Parameter.Gather
import ApiContract.Proofs.Parameter.Merge

/-!
# The schema of a parameter location

The parameters in force at a location are gathered under property names, in the order of their own
names. Where letter case is left aside, several of them can have one property name. The schema of the
property is then that of the greatest name, by code point, whether the path or the operation declares
it, and the property is required when any of them is.
-/

namespace ApiContract

/-! ## Locations -/

/-- The locations of request parameters. -/
inductive ParameterLocation
  | path
  | query
  | header
  | cookie
  deriving DecidableEq

namespace ParameterLocation

/-- The name of a location in a document. -/
def name : ParameterLocation → String
  | path => "path"
  | query => "query"
  | header => "header"
  | cookie => "cookie"

/-- How the names of a location are treated. -/
def naming : ParameterLocation → Parameter.Naming
  | path => ⟨false, []⟩
  | query => ⟨false, []⟩
  | header => ⟨true, ["Content-Type"]⟩
  | cookie => ⟨true, []⟩

end ParameterLocation

/-- The validator of the parameters at a location. -/
def Operation.parametersAt (op : Operation) : ParameterLocation → ParameterValidator
  | .path => op.pathParameters
  | .query => op.queryParameters
  | .header => op.headerParameters
  | .cookie => op.cookieParameters

namespace Parameter

variable {property : String} {g : Gathered}

/-! ## The schema of a location -/

/-- The schema of what is declared for a location by a path and by an operation. -/
def schemaAt (loc : ParameterLocation) (ofPath ofOperation : Value) : Except Failure Value :=
  aggregate loc.naming (Operation.located loc.name (merge ofPath ofOperation))

/-- The schema of a property. -/
def propertySchema? (schema : Value) (property : String) : Option Value :=
  (schema.member? "properties").bind (·.member? property)

/-- Is a property required? -/
def requires (schema : Value) (property : String) : Bool :=
  match schema.member? "required" with
  | some (.list names) => decide (.str property ∈ names)
  | _ => false

/-- A parameter in force at a location is checked under a property name. -/
structure Applies (loc : ParameterLocation) (ofPath ofOperation : Value) (property name : String)
    (p : Value) : Prop where
  inForce : inForce? ofPath ofOperation ⟨loc.name, name⟩ = some p
  property_eq : loc.naming.propertyName? name = some property

theorem propertySchema?_schema : propertySchema? g.schema property =
    Value.lookup g.properties property := by
  unfold propertySchema? Gathered.schema
  rfl

theorem requires_schema : requires g.schema property = true ↔ property ∈ g.required := by
  have hmember : g.schema.member? "required" = if g.required.isEmpty then none
      else some (.list (g.required.map fun name => .str name)) := by
    unfold Gathered.schema
    cases g.required <;> rfl
  rw [requires, hmember]
  cases g.required with
  | nil => simp
  | cons name rest => simp

variable {loc : ParameterLocation} {ofPath ofOperation p : Value} {name : String}

/-- The merged parameters of a location that are checked under a property name, with their keys. -/
def entriesUnder (loc : ParameterLocation) (ofPath ofOperation : Value) (property : String) :
    List (Key × Value) :=
  (mergedEntries ofPath ofOperation).filter fun e =>
    e.1.location == loc.name && loc.naming.propertyName? e.1.name == some property

-- These are the parameters that apply.
theorem mem_entriesUnder {e : Key × Value} : e ∈ entriesUnder loc ofPath ofOperation property ↔
    ∃ name p, e = (⟨loc.name, name⟩, p) ∧ Applies loc ofPath ofOperation property name p := by
  rcases e with ⟨⟨location, name⟩, p⟩
  rw [entriesUnder, List.mem_filter, mem_mergedEntries, Bool.and_eq_true, beq_iff_eq, beq_iff_eq]
  constructor
  · rintro ⟨hforce, hlocation, hproperty⟩
    obtain rfl : location = loc.name := hlocation
    exact ⟨name, p, rfl, hforce, hproperty⟩
  · rintro ⟨name', p', heq, happlies⟩
    cases heq
    exact ⟨happlies.inForce, rfl, happlies.property_eq⟩

theorem of_keyOf? {key : Key} (h : keyOf? p = some key) :
    nameOf? p = some key.name ∧ p.member? "in" = some (.str key.location) := by
  unfold keyOf? at h
  split at h
  · rename_i name location hname hlocation
    obtain rfl := Option.some.inj h
    refine ⟨?_, hlocation⟩
    rw [nameOf?, hname]
    rfl
  · cases h

-- The name and the location of a merged parameter are those of its key.
theorem located_merge : ((Operation.located loc.name (merge ofPath ofOperation)).filter
      fun p => propertyOf? loc.naming p = some property) =
    (entriesUnder loc ofPath ofOperation property).map (·.2) := by
  rw [Operation.located, merge_eq, List.filter_filter, List.filter_map, entriesUnder]
  congr 1
  refine List.filter_congr ?_
  rintro ⟨⟨location, name⟩, p⟩ hmem
  have hkey : keyOf? p = some ⟨location, name⟩ := keyOf?_of_inForce? (mem_mergedEntries.1 hmem)
  rcases of_keyOf? hkey with ⟨hname, hlocation⟩
  rw [Function.comp_apply, propertyOf?, hname, Option.bind_some, hlocation, Bool.eq_iff_iff]
  simp [and_comm]

-- Merged parameters that apply stand in the order of their names.
theorem pairwise_entriesUnder : (entriesUnder loc ofPath ofOperation property).Pairwise
    fun a b => a.1.name < b.1.name := by
  refine List.Pairwise.imp_of_mem ?_ (pairwise_mergedEntries.filter _)
  intro a b ha hb hab
  rcases mem_entriesUnder.1 ha with ⟨name, p, rfl, -⟩
  rcases mem_entriesUnder.1 hb with ⟨other, q, rfl, -⟩
  rcases hab with ⟨hle, hne⟩
  have hname : name ≤ other := by
    rcases Key.le_iff.1 hle with hlt | ⟨-, hname⟩
    · exact absurd hlt (String.lt_irrefl _)
    · exact hname
  by_contra hlt
  have heq : name = other := String.le_antisymm hname (String.not_lt.1 hlt)
  exact hne (by rw [heq])

-- Merged parameters are objects, so a location always has a schema.
theorem exists_schemaAt (loc : ParameterLocation) (ofPath ofOperation : Value) :
    ∃ g, gather loc.naming {} (Operation.located loc.name (merge ofPath ofOperation)) = .ok g ∧
      schemaAt loc ofPath ofOperation = .ok g.schema := by
  have hobjects : ∀ p ∈ Operation.located loc.name (merge ofPath ofOperation),
      ∃ fields, p = .object fields := by
    intro p hp
    have hmerged := (List.mem_filter.1 hp).1
    rw [merge_eq] at hmerged
    rcases List.mem_map.1 hmerged with ⟨⟨key, q⟩, hmem, rfl⟩
    have hlocation := (of_keyOf? (keyOf?_of_inForce? (mem_mergedEntries.1 hmem))).2
    cases q with
    | object fields => exact ⟨fields, rfl⟩
    | scalar s => cases hlocation
    | list items => cases hlocation
  have hgather : ∃ g, gather loc.naming {}
      (Operation.located loc.name (merge ofPath ofOperation)) = .ok g := exists_gather hobjects
  rcases hgather with ⟨g, hg⟩
  refine ⟨g, hg, ?_⟩
  rw [schemaAt, aggregate, hg]
  rfl

section

variable {schema : Value} (h : schemaAt loc ofPath ofOperation = .ok schema)
include h

/-- The schema of a property is that of the greatest name among the parameters that apply and have a
schema, no matter which of them the operation declares. -/
theorem propertySchema?_eq_some_iff {s : Value} : propertySchema? schema property = some s ↔
    ∃ name p, Applies loc ofPath ofOperation property name p ∧ schemaOf? p = some s ∧
      ∀ other q, Applies loc ofPath ofOperation property other q → name < other →
        schemaOf? q = none := by
  rcases exists_schemaAt loc ofPath ofOperation with ⟨g, hg, hschema⟩
  obtain rfl := Except.ok.inj (h.symm.trans hschema)
  have hasymm : ∀ a b : Key × Value, a.1.name < b.1.name → ¬ b.1.name < a.1.name :=
    fun a b hab hba => String.lt_irrefl _ (String.lt_trans hab hba)
  rw [propertySchema?_schema, lookup_gather hg, located_merge, ← List.map_reverse,
    List.findSome?_map, show Value.lookup ({} : Gathered).properties property = none from rfl,
    Option.or_none, findSome?_reverse_eq_some_iff hasymm pairwise_entriesUnder]
  constructor
  · rintro ⟨e, he, hs, hlater⟩
    rcases mem_entriesUnder.1 he with ⟨name, p, rfl, happlies⟩
    refine ⟨name, p, happlies, hs, fun other q hq hlt => ?_⟩
    exact hlater (⟨loc.name, other⟩, q) (mem_entriesUnder.2 ⟨other, q, rfl, hq⟩) hlt
  · rintro ⟨name, p, happlies, hs, hlater⟩
    refine ⟨(⟨loc.name, name⟩, p), mem_entriesUnder.2 ⟨name, p, rfl, happlies⟩, hs, ?_⟩
    intro e he hlt
    rcases mem_entriesUnder.1 he with ⟨other, q, rfl, hq⟩
    exact hlater other q hq hlt

/-- A property is required when one of the parameters that apply is. -/
theorem requires_iff : requires schema property = true ↔
    ∃ name p, Applies loc ofPath ofOperation property name p ∧ isRequired p = true := by
  rcases exists_schemaAt loc ofPath ofOperation with ⟨g, hg, hschema⟩
  obtain rfl := Except.ok.inj (h.symm.trans hschema)
  have hunder : ∀ p, p ∈ Operation.located loc.name (merge ofPath ofOperation) ∧
      propertyOf? loc.naming p = some property ↔
        ∃ name, Applies loc ofPath ofOperation property name p := by
    intro p
    have hfilter : p ∈ Operation.located loc.name (merge ofPath ofOperation) ∧
        propertyOf? loc.naming p = some property ↔
          p ∈ (entriesUnder loc ofPath ofOperation property).map (·.2) := by
      rw [← located_merge, List.mem_filter, decide_eq_true_iff]
    rw [hfilter, List.mem_map]
    constructor
    · rintro ⟨e, he, rfl⟩
      rcases mem_entriesUnder.1 he with ⟨name, p, rfl, happlies⟩
      exact ⟨name, happlies⟩
    · rintro ⟨name, happlies⟩
      exact ⟨(⟨loc.name, name⟩, p), mem_entriesUnder.2 ⟨name, p, rfl, happlies⟩, rfl⟩
  rw [requires_schema, mem_required_gather hg]
  constructor
  · rintro (hnone | ⟨p, hp, hproperty, hrequired⟩)
    · cases hnone
    · rcases (hunder p).1 ⟨hp, hproperty⟩ with ⟨name, happlies⟩
      exact ⟨name, p, happlies, hrequired⟩
  · rintro ⟨name, p, happlies, hrequired⟩
    rcases (hunder p).2 ⟨name, happlies⟩ with ⟨hp, hproperty⟩
    exact Or.inr ⟨p, hp, hproperty, hrequired⟩

end

end Parameter

/-! ## The validators of an operation -/

-- A validator is built for the schema of its parameters.
theorem ParameterValidator.aggregate_of_build {location : String} {naming : Parameter.Naming}
    {kind : ErrorKind} {parameters : List Value} {engine : Engine (Except Failure)}
    {direction : Direction} {validator : ParameterValidator}
    (h : build location naming kind parameters engine direction = .ok validator) :
    Parameter.aggregate naming parameters = .ok validator.schema := by
  simp only [build, Result.ofExcept_eq, Result.bind_eq_ok_iff] at h
  rcases h with ⟨schema, hschema, unit, -, h⟩
  rcases Except.ok.inj h with rfl
  exact hschema

/-- A built operation checks the parameters of each location against the schema of the location. -/
theorem Operation.Built.schemaAt_eq {path method : String} {fields : Fields} {ofPath : Value}
    {op : Operation} {requestEngine responseEngine : Engine (Except Failure)}
    (h : Built path method fields requestEngine responseEngine ofPath op)
    (loc : ParameterLocation) :
    Parameter.schemaAt loc ofPath (fieldOf fields "parameters") =
      .ok (op.parametersAt loc).schema := by
  cases loc with
  | path => exact ParameterValidator.aggregate_of_build h.pathParameters
  | query => exact ParameterValidator.aggregate_of_build h.queryParameters
  | header => exact ParameterValidator.aggregate_of_build h.headerParameters
  | cookie => exact ParameterValidator.aggregate_of_build h.cookieParameters

end ApiContract
