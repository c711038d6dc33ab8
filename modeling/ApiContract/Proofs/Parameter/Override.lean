import ApiContract.Proofs.Parameter.Location

/-!
# Overriding parameters

A path declares parameters for all of its operations, and an operation overrides what its path
declares under the very same location and name. Where letter case is left aside, the path and the
operation may spell one name in two ways. Then both declarations are in force, and what the path
declares may prevail.
-/

namespace ApiContract.Parameter

variable {loc : ParameterLocation} {ofPath ofOperation p : Value} {name property : String}

/-! ## Leaving out a declaration -/

/-- The declarations without those of a key. -/
def without (key : Key) : Value → Value
  | .list items => .list (items.filter fun p => !(keyOf? p == some key))
  | v => v

-- Leaving out a key leaves what is declared under the others.
theorem keyed_without (key : Key) (declared : Value) :
    keyed (without key declared) = (keyed declared).filter fun e => !(e.1 == key) := by
  cases declared with
  | scalar s => rfl
  | object fields => rfl
  | list items =>
    unfold without keyed
    dsimp only
    induction items with
    | nil => rfl
    | cons p rest ih =>
      rw [List.filter_cons, List.filterMap_cons]
      cases hkey : keyOf? p with
      | none =>
        rw [Option.map_none]
        simpa [hkey] using ih
      | some k =>
        rw [Option.map_some]
        dsimp only
        by_cases h : k = key
        · simpa [h] using ih
        · simpa [h, hkey] using ih

theorem lastOf?_filter {xs : List (Key × Value)} {key other : Key} :
    lastOf? (xs.filter fun e => !(e.1 == key)) other =
      if other = key then none else lastOf? xs other := by
  induction xs with
  | nil => exact (ite_self none).symm
  | cons e rest ih =>
    rcases e with ⟨k, v⟩
    rw [List.filter_cons, lastOf?_cons]
    by_cases hk : k = key
    · subst hk
      rw [if_neg (by simp), ih]
      by_cases h : other = k
      · rw [if_pos h, if_pos h]
      · rw [if_neg h, if_neg h, if_neg h, Option.or_none]
    · rw [if_pos (by simpa using hk), lastOf?_cons, ih]
      by_cases h : other = key
      · subst h
        rw [if_pos rfl, if_pos rfl, if_neg (Ne.symm hk), Option.or_none]
      · rw [if_neg h, if_neg h]

-- Without a key of the path, what the operation declares is in force under it, and nothing changes
-- under the others.
theorem inForce?_without {key other : Key} : inForce? (without key ofPath) ofOperation other =
    if other = key then lastOf? (keyed ofOperation) other
    else inForce? ofPath ofOperation other := by
  rw [inForce?, keyed_without, lastOf?_filter]
  by_cases h : other = key
  · rw [if_pos h, if_pos h, Option.or_none]
  · rw [if_neg h, if_neg h, inForce?]

-- Where what is in force is none of the path's, leaving out what the path declares changes nothing.
theorem merge_without {key : Key}
    (h : inForce? ofPath ofOperation key = lastOf? (keyed ofOperation) key) :
    merge (without key ofPath) ofOperation = merge ofPath ofOperation := by
  refine merge_congr fun other => ?_
  rw [inForce?_without]
  by_cases hother : other = key
  · subst hother
    rw [if_pos rfl, h]
  · rw [if_neg hother]

/-- What a path declares under a key has no effect at all when the operation declares the very same
key. -/
theorem merge_without_of_declared {key : Key}
    (h : (lastOf? (keyed ofOperation) key).isSome = true) :
    merge (without key ofPath) ofOperation = merge ofPath ofOperation := by
  refine merge_without ?_
  rw [inForce?]
  cases hlast : lastOf? (keyed ofOperation) key with
  | none => rw [hlast] at h; cases h
  | some p => rw [Option.some_or]

section

variable {schema rest : Value} (hschema : schemaAt loc ofPath ofOperation = .ok schema)
  (hrest : schemaAt loc (without ⟨loc.name, name⟩ ofPath) ofOperation = .ok rest)
  (hname : loc.naming.propertyName? name = some property)
  (hpath : lastOf? (keyed ofPath) ⟨loc.name, name⟩ = some p)
  (hoperation : lastOf? (keyed ofOperation) ⟨loc.name, name⟩ = none)

include hname hpath hoperation in
-- A parameter that only the path declares applies.
theorem applies_of_path : Applies loc ofPath ofOperation property name p := by
  refine ⟨?_, hname⟩
  rw [inForce?, hoperation, hpath, Option.none_or]

include hoperation in
-- Without it the others apply.
theorem applies_without_iff {other : String} {q : Value} :
    Applies loc (without ⟨loc.name, name⟩ ofPath) ofOperation property other q ↔
      Applies loc ofPath ofOperation property other q ∧ other ≠ name := by
  constructor
  · rintro ⟨hforce, hproperty⟩
    rw [inForce?_without] at hforce
    by_cases h : other = name
    · subst h
      rw [if_pos rfl, hoperation] at hforce
      cases hforce
    · rw [if_neg (by simpa using h)] at hforce
      exact ⟨⟨hforce, hproperty⟩, h⟩
  · rintro ⟨⟨hforce, hproperty⟩, h⟩
    refine ⟨?_, hproperty⟩
    rw [inForce?_without, if_neg (by simpa using h), hforce]

include hschema hrest hname hpath hoperation

-- The schema of the property stays when it is the same anyway or comes from a greater name.
theorem propertySchema?_without_iff :
    propertySchema? schema property = propertySchema? rest property ↔
      ∀ s, schemaOf? p = some s → propertySchema? rest property = some s ∨
        ∃ other q t, Applies loc ofPath ofOperation property other q ∧ name < other ∧
          schemaOf? q = some t := by
  have happlies : Applies loc ofPath ofOperation property name p :=
    applies_of_path hname hpath hoperation
  have honly : ∀ q, Applies loc ofPath ofOperation property name q → q = p := fun q hq =>
    Option.some.inj (hq.inForce.symm.trans happlies.inForce)
  constructor
  · intro heq s hs
    by_cases hgreater : ∃ other q t, Applies loc ofPath ofOperation property other q ∧
        name < other ∧ schemaOf? q = some t
    · exact Or.inr hgreater
    · refine Or.inl ?_
      rw [← heq, propertySchema?_eq_some_iff hschema]
      refine ⟨name, p, happlies, hs, fun other q hq hlt => ?_⟩
      cases ht : schemaOf? q with
      | none => rfl
      | some t => exact absurd ⟨other, q, t, hq, hlt, ht⟩ hgreater
  · intro hstays
    refine Option.ext fun s => ?_
    rw [propertySchema?_eq_some_iff hschema]
    constructor
    · rintro ⟨winner, w, hw, hs, hgreatest⟩
      by_cases hwinner : winner = name
      · -- The parameter itself decides, so nothing greater has a schema.
        subst hwinner
        obtain rfl := honly w hw
        rcases hstays s hs with hsame | ⟨other, q, t, hq, hlt, ht⟩
        · exact hsame
        · rw [hgreatest other q hq hlt] at ht
          cases ht
      · rw [propertySchema?_eq_some_iff hrest]
        refine ⟨winner, w, (applies_without_iff hoperation).2 ⟨hw, hwinner⟩, hs, ?_⟩
        intro other q hq hlt
        exact hgreatest other q ((applies_without_iff hoperation).1 hq).1 hlt
    · intro hrests
      rcases (propertySchema?_eq_some_iff hrest).1 hrests with ⟨winner, w, hw, hs, hgreatest⟩
      rcases (applies_without_iff hoperation).1 hw with ⟨hw, hwinner⟩
      have hothers : ∀ other q, Applies loc ofPath ofOperation property other q → other ≠ name →
          winner < other → schemaOf? q = none := fun other q hq hne hlt =>
        hgreatest other q ((applies_without_iff hoperation).2 ⟨hq, hne⟩) hlt
      by_cases hlt : winner < name
      · cases ht : schemaOf? p with
        | none =>
          refine ⟨winner, w, hw, hs, fun other q hq hother => ?_⟩
          by_cases hself : other = name
          · subst hself
            rw [honly q hq, ht]
          · exact hothers other q hq hself hother
        | some t =>
          rcases hstays t ht with hsame | ⟨other, q, t', hq, hother, ht'⟩
          · obtain rfl : t = s := Option.some.inj (hsame.symm.trans hrests)
            refine ⟨name, p, happlies, ht, fun other q hq hother => ?_⟩
            have hself : other ≠ name := fun heq => String.lt_irrefl name (heq ▸ hother)
            exact hothers other q hq hself (String.lt_trans hlt hother)
          · have hself : other ≠ name := fun heq => String.lt_irrefl name (heq ▸ hother)
            rw [hothers other q hq hself (String.lt_trans hlt hother)] at ht'
            cases ht'
      · refine ⟨winner, w, hw, hs, fun other q hq hother => ?_⟩
        exact hothers other q hq (fun heq => hlt (heq ▸ hother)) hother

-- The property stays required when it is so anyway.
theorem requires_without_iff : requires schema property = requires rest property ↔
    (isRequired p = true → requires rest property = true) := by
  have happlies : Applies loc ofPath ofOperation property name p :=
    applies_of_path hname hpath hoperation
  rw [Bool.eq_iff_iff]
  constructor
  · intro heq hrequired
    exact heq.1 ((requires_iff hschema).2 ⟨name, p, happlies, hrequired⟩)
  · intro hstays
    rw [requires_iff hschema]
    constructor
    · rintro ⟨other, q, hq, hrequired⟩
      by_cases hother : other = name
      · subst hother
        obtain rfl : q = p := Option.some.inj (hq.inForce.symm.trans happlies.inForce)
        exact hstays hrequired
      · rw [requires_iff hrest]
        exact ⟨other, q, (applies_without_iff hoperation).2 ⟨hq, hother⟩, hrequired⟩
    · intro h
      rcases (requires_iff hrest).1 h with ⟨other, q, hq, hrequired⟩
      exact ⟨other, q, ((applies_without_iff hoperation).1 hq).1, hrequired⟩

end

/-- When a declaration of the path has no effect on the schema of a location. Leaving it out changes
neither the schema of its property nor whether the property is required exactly when the operation
declares the very same name, or else what is left makes up for it: the property has that schema anyway
or takes it from a parameter with a greater name, and it is required anyway if the parameter is. That
the operation declares the name in another letter case is not enough. -/
theorem path_parameter_has_no_effect_iff (loc : ParameterLocation) (ofPath ofOperation : Value)
    {name property : String} (hname : loc.naming.propertyName? name = some property) :
    ∃ schema rest, schemaAt loc ofPath ofOperation = .ok schema ∧
      schemaAt loc (without ⟨loc.name, name⟩ ofPath) ofOperation = .ok rest ∧
      ((propertySchema? schema property = propertySchema? rest property ∧
          requires schema property = requires rest property) ↔
        ∀ p, lastOf? (keyed ofPath) ⟨loc.name, name⟩ = some p →
          lastOf? (keyed ofOperation) ⟨loc.name, name⟩ = none →
            (∀ s, schemaOf? p = some s → propertySchema? rest property = some s ∨
              ∃ other q t, Applies loc ofPath ofOperation property other q ∧ name < other ∧
                schemaOf? q = some t) ∧
            (isRequired p = true → requires rest property = true)) := by
  rcases exists_schemaAt loc ofPath ofOperation with ⟨g, -, hschema⟩
  rcases exists_schemaAt loc (without ⟨loc.name, name⟩ ofPath) ofOperation with ⟨g', -, hrest⟩
  refine ⟨g.schema, g'.schema, hschema, hrest, ?_⟩
  by_cases hforce : inForce? ofPath ofOperation ⟨loc.name, name⟩ =
      lastOf? (keyed ofOperation) ⟨loc.name, name⟩
  · -- Nothing that the path declares is in force under the name.
    have heq : g.schema = g'.schema := by
      rw [schemaAt, merge_without hforce] at hrest
      exact Except.ok.inj (hschema.symm.trans hrest)
    rw [heq]
    refine iff_of_true ⟨rfl, rfl⟩ fun p hpath hoperation => ?_
    rw [inForce?, hoperation, hpath, Option.none_or] at hforce
    cases hforce
  · have hoperation : lastOf? (keyed ofOperation) ⟨loc.name, name⟩ = none := by
      rw [inForce?] at hforce
      cases hlast : lastOf? (keyed ofOperation) ⟨loc.name, name⟩ with
      | none => rfl
      | some p => rw [hlast, Option.some_or] at hforce; exact absurd rfl hforce
    cases hpath : lastOf? (keyed ofPath) ⟨loc.name, name⟩ with
    | none => rw [inForce?, hpath, Option.or_none] at hforce; exact absurd rfl hforce
    | some p =>
      rw [propertySchema?_without_iff hschema hrest hname hpath hoperation,
        requires_without_iff hschema hrest hname hpath hoperation]
      constructor
      · rintro h q hq -
        obtain rfl := Option.some.inj hq
        exact h
      · intro h
        exact h p rfl hoperation

/-! ## One name in two letter cases -/

/-- A header whose values have a type. -/
def typedHeader (name type : String) : Value :=
  .object [(.str "name", .str name), (.str "in", .str "header"),
    (.str "schema", .object [(.str "type", .str type)])]

/-- The schema of a location with one property, whose values have a type. -/
def typedProperty (property type : String) : Value :=
  .object [(.str "type", .str "object"),
    (.str "properties", .object [(.str property, .object [(.str "type", .str type)])])]

-- The operation's name is the greater one here, so what the path declares has no effect.
theorem no_effect_of_lower_case_operation :
    ParameterLocation.header.naming.propertyName? "X-A" = some "x-a" ∧
      ∃ schema rest,
        schemaAt .header (.list [typedHeader "X-A" "integer"])
          (.list [typedHeader "x-a" "string"]) = .ok schema ∧
        schemaAt .header (without ⟨"header", "X-A"⟩ (.list [typedHeader "X-A" "integer"]))
          (.list [typedHeader "x-a" "string"]) = .ok rest ∧
        propertySchema? schema "x-a" = propertySchema? rest "x-a" := by
  have hname : ParameterLocation.header.naming.propertyName? "X-A" = some "x-a" := by rfl
  have happlies : Applies .header (.list [typedHeader "X-A" "integer"])
      (.list [typedHeader "x-a" "string"]) "x-a" "x-a" (typedHeader "x-a" "string") :=
    ⟨rfl, rfl⟩
  rcases path_parameter_has_no_effect_iff .header (.list [typedHeader "X-A" "integer"])
    (.list [typedHeader "x-a" "string"]) hname with ⟨schema, rest, hschema, hrest, hiff⟩
  refine ⟨hname, schema, rest, hschema, hrest, (hiff.2 fun p hpath _ => ⟨fun s _ => ?_, ?_⟩).1⟩
  · exact Or.inr ⟨"x-a", _, _, happlies, by decide, rfl⟩
  · obtain rfl := Option.some.inj hpath
    intro hrequired
    exact absurd hrequired (by decide)

-- The path's name is the greater one here, and it is the path's schema that counts, although the
-- operation declares the header.
theorem effect_of_lower_case_path :
    Text.lower "X-A" = Text.lower "x-a" ∧
      lastOf? (keyed (.list [typedHeader "X-A" "string"])) ⟨"header", "X-A"⟩ =
        some (typedHeader "X-A" "string") ∧
      ∃ schema rest,
        schemaAt .header (.list [typedHeader "x-a" "integer"])
          (.list [typedHeader "X-A" "string"]) = .ok schema ∧
        schemaAt .header (without ⟨"header", "x-a"⟩ (.list [typedHeader "x-a" "integer"]))
          (.list [typedHeader "X-A" "string"]) = .ok rest ∧
        propertySchema? schema "x-a" ≠ propertySchema? rest "x-a" := by
  have horder : Key.le ⟨"header", "x-a"⟩ ⟨"header", "X-A"⟩ = false := by decide
  have hkept : lastOfEach (keyed (.list [typedHeader "x-a" "integer"]) ++
      keyed (.list [typedHeader "X-A" "string"])) =
        [(⟨"header", "x-a"⟩, typedHeader "x-a" "integer"),
          (⟨"header", "X-A"⟩, typedHeader "X-A" "string")] := rfl
  have hmerge : merge (.list [typedHeader "x-a" "integer"])
      (.list [typedHeader "X-A" "string"]) =
        [typedHeader "X-A" "string", typedHeader "x-a" "integer"] := by
    rw [merge_eq, mergedEntries, hkept]
    simp [List.mergeSort, List.MergeSort.Internal.splitInTwo, horder]
  have hkept' : lastOfEach (keyed (without ⟨"header", "x-a"⟩
      (.list [typedHeader "x-a" "integer"])) ++ keyed (.list [typedHeader "X-A" "string"])) =
        [(⟨"header", "X-A"⟩, typedHeader "X-A" "string")] := rfl
  have hmerge' : merge (without ⟨"header", "x-a"⟩ (.list [typedHeader "x-a" "integer"]))
      (.list [typedHeader "X-A" "string"]) = [typedHeader "X-A" "string"] := by
    rw [merge_eq, mergedEntries, hkept', List.mergeSort_singleton, List.map_singleton]
  have hschema : schemaAt .header (.list [typedHeader "x-a" "integer"])
      (.list [typedHeader "X-A" "string"]) = .ok (typedProperty "x-a" "integer") := by
    rw [schemaAt, hmerge]
    rfl
  have hrest : schemaAt .header
      (without ⟨"header", "x-a"⟩ (.list [typedHeader "x-a" "integer"]))
      (.list [typedHeader "X-A" "string"]) = .ok (typedProperty "x-a" "string") := by
    rw [schemaAt, hmerge']
    rfl
  exact ⟨by decide +kernel, rfl, _, _, hschema, hrest, by decide⟩

end ApiContract.Parameter
