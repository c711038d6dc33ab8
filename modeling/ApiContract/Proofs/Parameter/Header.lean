import ApiContract.Proofs.Parameter.Location

/-!
# Headers and their names

Each entry of a headers object that is an object declares a header. The header is checked under the
name that it brings itself, and only without one under the key of its entry; letter case is left aside,
and the content type is passed over. Of several headers under one name the last schema counts, and the
name is required when one of them is.
-/

namespace ApiContract.Parameter

open ParameterValidator (headerParameter? headerParameters)

/-- How the names of headers are treated. -/
def headerNaming : Naming := ParameterLocation.header.naming

/-- The property under which a header of the given name is checked; only texts are names. -/
def headerProperty? (name : Value) : Option String := name.string?.bind headerNaming.propertyName?

/-- The name of the header that an entry declares: its own, or else the key of the entry. -/
def headerName (entry : Scalar × Value) : Value :=
  (entry.2.member? "name").getD (.scalar entry.1)

/-- The key of an entry, taken as the name of the header. -/
def headerKey (entry : Scalar × Value) : Value := .scalar entry.1

/-- The entry declares a header that is checked under the property, when its name is taken so. -/
def Declares (name : Scalar × Value → Value) (property : String) (entry : Scalar × Value) : Prop :=
  entry.2.isObject = true ∧ headerProperty? (name entry) = some property

instance (name : Scalar × Value → Value) (property : String) (entry : Scalar × Value) :
    Decidable (Declares name property entry) :=
  inferInstanceAs (Decidable (_ ∧ _))

/-- The schema consists of what the headers contribute under their names: each property has the last
schema among the headers under it, and is required when one of them is. -/
structure Gathers (name : Scalar × Value → Value) (entries : Fields) (schema : Value) : Prop where
  property_iff : ∀ property s, propertySchema? schema property = some s ↔
    ∃ before entry after, entries = before ++ entry :: after ∧ Declares name property entry ∧
      schemaOf? entry.2 = some s ∧
      ∀ other ∈ after, Declares name property other → schemaOf? other.2 = none
  required_iff : ∀ property, requires schema property = true ↔
    ∃ entry ∈ entries, Declares name property entry ∧ isRequired entry.2 = true

variable {entry : Scalar × Value} {entries : Fields} {p : Value} {property : String}
  {name other : Scalar × Value → Value}

-- Names that lead to the same properties are as good as each other.
theorem Gathers.congr {schema : Value} (h : Gathers name entries schema)
    (hsame : ∀ entry ∈ entries, entry.2.isObject = true →
      headerProperty? (other entry) = headerProperty? (name entry)) :
    Gathers other entries schema := by
  have hdeclares : ∀ property, ∀ entry ∈ entries,
      (Declares other property entry ↔ Declares name property entry) := by
    intro property entry hentry
    exact and_congr_right fun hobject => by rw [hsame entry hentry hobject]
  refine ⟨fun property s => ?_, fun property => ?_⟩
  · rw [h.property_iff]
    refine exists₃_congr fun before entry after => and_congr_right fun heq => ?_
    have hmem : ∀ x ∈ entry :: after, x ∈ entries := by
      rw [heq]
      exact fun x hx => List.mem_append_right before hx
    rw [hdeclares property entry (hmem entry List.mem_cons_self)]
    refine and_congr_right fun _ => and_congr_right fun _ => forall₂_congr fun x hx => ?_
    rw [hdeclares property x (hmem x (List.mem_cons_of_mem entry hx))]
  · rw [h.required_iff]
    refine exists_congr fun entry => and_congr_right fun hentry => ?_
    rw [hdeclares property entry hentry]

/-! ## The parameter of a header -/

-- A header's own members hide the name that its key gives it.
theorem member?_headerParameter {key : Scalar} {fields : Fields} {n : String}
    (h : Fields.distinct fields = true) :
    (Value.object (Fields.ofPairs ((.str "name", .scalar key) :: fields))).member? n =
      (Value.lookup fields n).or (if n = "name" then some (.scalar key) else none) := by
  have hfirst : [((.str "name", .scalar key) : Scalar × Value)].lookup (.str n) =
      if n = "name" then some (.scalar key) else none := by
    refine Fields.lookup_cons.trans ?_
    simp only [Scalar.str.injEq, eq_comm]
    rfl
  rw [Value.member?, Fields.lookup_ofPairs, List.reverse_cons, List.lookup_append,
    Value.lookup_reverse_of_distinct h, hfirst]

-- What a header contributes is what its entry does, under its own name.
theorem of_headerParameter? (hv : entry.2.wellKeyed = true) (h : headerParameter? entry = some p) :
    entry.2.isObject = true ∧ propertyOf? headerNaming p = headerProperty? (headerName entry) ∧
      schemaOf? p = schemaOf? entry.2 ∧ isRequired p = isRequired entry.2 := by
  obtain ⟨key, v⟩ := entry
  cases v with
  | scalar s => cases h
  | list items => cases h
  | object fields =>
    obtain rfl := Option.some.inj h
    simp only [Value.wellKeyed, Bool.and_eq_true] at hv
    refine ⟨rfl, ?_, ?_, ?_⟩
    · rw [propertyOf?, nameOf?, member?_headerParameter hv.1, headerProperty?, headerName,
        Value.member?]
      cases Value.lookup fields "name" <;> rfl
    · rw [schemaOf?, member?_headerParameter hv.1, if_neg (by decide), Option.or_none]
      rfl
    · rw [isRequired, member?_headerParameter hv.1, if_neg (by decide), Option.or_none]
      rfl

theorem headerParameter?_eq_none (h : headerParameter? entry = none) : entry.2.isObject = false := by
  obtain ⟨key, v⟩ := entry
  cases v with
  | scalar s => rfl
  | list items => rfl
  | object fields => cases h

/-! ## What the headers contribute -/

/-- The schema that an entry contributes to a property. -/
def contribution? (property : String) (entry : Scalar × Value) : Option Value :=
  if Declares headerName property entry then schemaOf? entry.2 else none

-- The contributions of the headers are those of the entries.
theorem filterMap_headerParameter? (h : Value.wellKeyedFields entries = true) :
    (((entries.filterMap headerParameter?).filter
      fun p => propertyOf? headerNaming p = some property).filterMap schemaOf?) =
      entries.filterMap (contribution? property) := by
  rw [List.filterMap_filter, List.filterMap_filterMap]
  refine List.filterMap_congr fun entry hentry => ?_
  cases hp : headerParameter? entry with
  | none =>
    have hobject := headerParameter?_eq_none hp
    rw [contribution?, if_neg fun hdeclares => by rw [hdeclares.1] at hobject; cases hobject]
    rfl
  | some p =>
    obtain ⟨hobject, hproperty, hschema, -⟩ :=
      of_headerParameter? (Value.wellKeyed_of_mem h hentry) hp
    rw [Option.bind_some, hproperty, hschema, contribution?]
    simp only [Declares, hobject, true_and, decide_eq_true_eq]

-- The last contribution to a property comes from an entry with none after it.
theorem lastContribution_iff {s : Value} :
    entries.reverse.findSome? (contribution? property) = some s ↔
      ∃ before entry after, entries = before ++ entry :: after ∧
        Declares headerName property entry ∧ schemaOf? entry.2 = some s ∧
        ∀ other ∈ after, Declares headerName property other → schemaOf? other.2 = none := by
  have hsome : ∀ entry, contribution? property entry = some s ↔
      Declares headerName property entry ∧ schemaOf? entry.2 = some s := by
    intro entry
    rw [contribution?, Option.ite_none_right_eq_some]
  have hnone : ∀ entry, contribution? property entry = none ↔
      (Declares headerName property entry → schemaOf? entry.2 = none) := by
    intro entry
    rw [contribution?, ite_eq_right_iff]
  simp only [Related.findSome?_reverse_iff, hsome, hnone, and_assoc]

-- Headers are gathered under the names that they bring.
theorem gathers_of_gather {g : Gathered} (h : Value.wellKeyedFields entries = true)
    (hg : gather headerNaming {} (entries.filterMap headerParameter?) = .ok g) :
    Gathers headerName entries g.schema := by
  refine ⟨fun property s => ?_, fun property => ?_⟩
  · rw [propertySchema?_schema, lookup_gather hg,
      show Value.lookup ({} : Gathered).properties property = none from rfl, Option.or_none,
      ← List.head?_filterMap, List.filterMap_reverse, filterMap_headerParameter? h,
      ← List.filterMap_reverse, List.head?_filterMap, lastContribution_iff]
  · rw [requires_schema, mem_required_gather hg]
    constructor
    · rintro (hnone | ⟨p, hp, hproperty, hrequired⟩)
      · cases hnone
      · obtain ⟨entry, hentry, hparameter⟩ := List.mem_filterMap.1 hp
        obtain ⟨hobject, hname, -, hrequires⟩ :=
          of_headerParameter? (Value.wellKeyed_of_mem h hentry) hparameter
        exact ⟨entry, hentry, ⟨hobject, hname ▸ hproperty⟩, hrequires ▸ hrequired⟩
    · rintro ⟨entry, hentry, ⟨hobject, hproperty⟩, hrequired⟩
      cases hparameter : headerParameter? entry with
      | none =>
        rw [headerParameter?_eq_none hparameter] at hobject
        cases hobject
      | some p =>
        obtain ⟨-, hname, -, hrequires⟩ :=
          of_headerParameter? (Value.wellKeyed_of_mem h hentry) hparameter
        have hmem : p ∈ entries.filterMap headerParameter? :=
          List.mem_filterMap.2 ⟨entry, hentry, hparameter⟩
        exact Or.inr ⟨p, hmem, hname ▸ hproperty, hrequires ▸ hrequired⟩

/-- Under which name a header is checked. A headers object always has a schema, and every validator
that is built from it has that one. In it each header stands under its own name, if it has one, and
under the key of its entry otherwise. Only where no header has a name that leads to another property
than its key do the keys decide. -/
theorem headers_gathered_under_own_names (h : (Value.object entries).wellKeyed = true) :
    ∃ schema, (headerParameters (.object entries) >>= aggregate headerNaming) = .ok schema ∧
      (∀ (engine : Engine (Except Failure)) direction validator,
        ParameterValidator.ofHeaders (.object entries) engine direction = .ok validator →
          validator.schema = schema) ∧
      Gathers headerName entries schema ∧
      ((∀ entry ∈ entries, entry.2.isObject = true →
        headerProperty? (headerKey entry) = headerProperty? (headerName entry)) →
          Gathers headerKey entries schema) := by
  simp only [Value.wellKeyed, Bool.and_eq_true] at h
  have hobjects : ∀ p ∈ entries.filterMap headerParameter?, ∃ fields, p = .object fields := by
    intro p hp
    obtain ⟨⟨key, v⟩, -, hparameter⟩ := List.mem_filterMap.1 hp
    cases v with
    | scalar s => cases hparameter
    | list items => cases hparameter
    | object fields => exact ⟨_, (Option.some.inj hparameter).symm⟩
  obtain ⟨g, hg⟩ : ∃ g, gather headerNaming {} (entries.filterMap headerParameter?) = .ok g :=
    exists_gather hobjects
  have haggregate : aggregate headerNaming (entries.filterMap headerParameter?) = .ok g.schema := by
    rw [aggregate, hg]
    rfl
  have hgathers := gathers_of_gather h.2 hg
  refine ⟨g.schema, haggregate, fun engine direction validator hvalidator => ?_, hgathers,
    hgathers.congr⟩
  have hbuilt := ParameterValidator.aggregate_of_build hvalidator
  exact Except.ok.inj (hbuilt.symm.trans haggregate)

/-- Two headers under one name, the content type, and what is no header. -/
def plainHeaders : Fields :=
  [(.str "X-Rate", .object [(.str "required", .int 1),
      (.str "schema", .object [(.str "type", .str "integer")])]),
    (.str "Content-Type", .object [(.str "schema", .bool false)]), (.str "X-Note", .int 5),
    (.str "x-rate", .object [(.str "schema", .bool true)])]

-- Without names of their own the headers are checked under their keys.
theorem plain_headers_gathered_under_keys : ∃ schema,
    (headerParameters (.object plainHeaders) >>= aggregate headerNaming) = .ok schema ∧
    Gathers headerKey plainHeaders schema ∧ propertySchema? schema "x-rate" = some (.bool true) := by
  obtain ⟨schema, hschema, -, -, hkeys⟩ :=
    @headers_gathered_under_own_names plainHeaders (by decide +kernel)
  have hgathers : Gathers headerKey plainHeaders schema := hkeys (by decide +kernel)
  refine ⟨schema, hschema, hgathers, (hgathers.property_iff "x-rate" _).2 ?_⟩
  exact ⟨plainHeaders.take 3, (.str "x-rate", .object [(.str "schema", .bool true)]), [], rfl,
    by decide +kernel, by decide +kernel, nofun⟩

/-- A header whose own name is not its key. -/
def renamedHeader : Scalar × Value :=
  (.str "X-Rate", .object [(.str "name", .str "X-Other"), (.str "required", .bool true),
    (.str "schema", .object [(.str "type", .str "integer")])])

-- It is not checked under its key but under its own name.
theorem renamed_header_not_gathered_under_key : ∃ schema,
    (headerParameters (.object [renamedHeader]) >>= aggregate headerNaming) = .ok schema ∧
    propertySchema? schema "x-rate" = none ∧ requires schema "x-rate" = false ∧
    requires schema "x-other" = true ∧ ¬ Gathers headerKey [renamedHeader] schema := by
  refine ⟨.object [(.str "type", .str "object"), (.str "properties", .object
      [(.str "x-other", .object [(.str "type", .str "integer")])]),
    (.str "required", .list [.str "x-other"])], by decide +kernel, by decide +kernel,
    by decide +kernel, by decide +kernel, fun hgathers => ?_⟩
  have hdeclares : Declares headerKey "x-rate" renamedHeader := by decide +kernel
  have hrequires := (hgathers.required_iff "x-rate").2
    ⟨renamedHeader, List.mem_singleton_self _, hdeclares, by decide +kernel⟩
  exact absurd hrequires (by decide +kernel)

end ApiContract.Parameter
