import ApiContract.Parameter.Aggregate
import ApiContract.Proofs.Value.Keys
import Mathlib.Data.List.Basic
import Mathlib.Data.List.Pairwise

/-!
# Gathering parameters

Each parameter contributes to one property: its schema, where a later one takes the place of an
earlier one, and whether the property is required, which a later one cannot take back.
-/

namespace ApiContract.Parameter

/-! ## What a parameter contributes -/

/-- The name of a parameter. -/
def nameOf? (p : Value) : Option String := (p.member? "name").bind Value.string?

/-- The property name under which a parameter is checked; nothing when it is passed over. -/
def propertyOf? (naming : Naming) (p : Value) : Option String :=
  (nameOf? p).bind naming.propertyName?

/-- The schema of a parameter, if it has one. -/
def schemaOf? (p : Value) : Option Value :=
  (p.member? "schema").filter fun schema => schema.isObject || schema.isBool

/-- Is the parameter required? -/
def isRequired (p : Value) : Bool := Value.truthy? (p.member? "required")

variable {naming : Naming} {property key : String} {fields : Fields} {g g' : Gathered}
  {ps : List Value}

theorem add_of_none (h : propertyOf? naming (.object fields) = none) : g.add naming fields = g := by
  unfold Gathered.add
  split
  · rfl
  · rename_i name hname
    split
    · rfl
    · rename_i key hkey
      rw [propertyOf?, nameOf?, Value.member?, hname, Option.bind_some, hkey] at h
      cases h

theorem properties_add (h : propertyOf? naming (.object fields) = some key) :
    (g.add naming fields).properties = match schemaOf? (.object fields) with
      | some schema => Fields.set (.str key) schema g.properties
      | none => g.properties := by
  unfold Gathered.add
  split
  · rename_i hname
    rw [propertyOf?, nameOf?, Value.member?, hname] at h
    cases h
  · rename_i name hname
    rw [propertyOf?, nameOf?, Value.member?, hname, Option.bind_some] at h
    rw [h, schemaOf?, Value.member?]
    cases Value.lookup fields "schema" with
    | none => rfl
    | some schema =>
      rw [Option.filter_some]
      by_cases hproper : (schema.isObject || schema.isBool) = true
      · rw [if_pos hproper]
        exact if_pos hproper
      · rw [if_neg hproper]
        exact if_neg hproper

theorem required_add (h : propertyOf? naming (.object fields) = some key) :
    (g.add naming fields).required =
      if isRequired (.object fields) && !g.required.contains key then g.required ++ [key]
      else g.required := by
  unfold Gathered.add
  split
  · rename_i hname
    rw [propertyOf?, nameOf?, Value.member?, hname] at h
    cases h
  · rename_i name hname
    rw [propertyOf?, nameOf?, Value.member?, hname, Option.bind_some] at h
    rw [h]
    rfl

-- A parameter adds its schema under its property name, and nothing under others.
theorem lookup_add : Value.lookup (g.add naming fields).properties property =
    (if propertyOf? naming (.object fields) = some property then schemaOf? (.object fields)
      else none).or (Value.lookup g.properties property) := by
  cases h : propertyOf? naming (.object fields) with
  | none => rw [add_of_none h, if_neg nofun, Option.none_or]
  | some key =>
    rw [properties_add h]
    simp only [Option.some.injEq]
    cases schemaOf? (.object fields) with
    | none => rw [ite_self, Option.none_or]
    | some schema =>
      dsimp only
      rw [Fields.lookup_set]
      by_cases hkey : key = property
      · rw [if_pos hkey, if_pos hkey, Option.some_or]
      · rw [if_neg hkey, if_neg hkey, Option.none_or]

-- A parameter makes its property name required, and no other.
theorem mem_required_add : property ∈ (g.add naming fields).required ↔
    property ∈ g.required ∨
      propertyOf? naming (.object fields) = some property ∧ isRequired (.object fields) = true := by
  cases h : propertyOf? naming (.object fields) with
  | none => simp [add_of_none h]
  | some key =>
    rw [required_add h, Option.some.injEq]
    cases isRequired (.object fields) with
    | false => simp
    | true =>
      by_cases hmem : key ∈ g.required
      · have hkey : key = property → property ∈ g.required := fun heq => heq ▸ hmem
        simpa [hmem] using hkey
      · simp [hmem, eq_comm]

/-! ## What has been gathered -/

-- Objects can be gathered.
theorem exists_gather (h : ∀ p ∈ ps, ∃ fields, p = .object fields) :
    ∃ g', gather naming g ps = .ok g' := by
  induction ps generalizing g with
  | nil => exact ⟨g, rfl⟩
  | cons p rest ih =>
    rcases h p List.mem_cons_self with ⟨fields, rfl⟩
    exact ih fun q hq => h q (List.mem_cons_of_mem _ hq)

-- The last parameter with a schema under a property name decides.
theorem lookup_gather (h : gather naming g ps = .ok g') :
    Value.lookup g'.properties property =
      ((ps.filter fun p => propertyOf? naming p = some property).reverse.findSome? schemaOf?).or
        (Value.lookup g.properties property) := by
  induction ps generalizing g with
  | nil =>
    obtain rfl := Except.ok.inj h
    rfl
  | cons p rest ih =>
    cases p with
    | scalar s => cases h
    | list items => cases h
    | object fields =>
      rw [ih h, lookup_add, List.filter_cons]
      by_cases hp : propertyOf? naming (.object fields) = some property
      · rw [if_pos hp, if_pos (by simpa using hp), List.reverse_cons, List.findSome?_append,
          Option.or_assoc]
        congr 2
        simp
      · rw [if_neg hp, if_neg (by simpa using hp), Option.none_or]

-- Schemas are gathered under distinct names.
theorem distinct_gather (h : gather naming g ps = .ok g')
    (hg : Fields.distinct g.properties = true) : Fields.distinct g'.properties = true := by
  induction ps generalizing g with
  | nil =>
    obtain rfl := Except.ok.inj h
    exact hg
  | cons p rest ih =>
    cases p with
    | scalar s => cases h
    | list items => cases h
    | object fields =>
      refine ih h ?_
      cases hkey : propertyOf? naming (.object fields) with
      | none => rwa [add_of_none hkey]
      | some key =>
        rw [properties_add hkey]
        cases schemaOf? (.object fields) with
        | none => exact hg
        | some schema => exact Fields.distinct_set _ _ hg

-- Where no two parameters have the same property name, it tells them apart.
theorem eq_of_propertyOf? {p q : Value} (hnames : (ps.filterMap (propertyOf? naming)).Nodup)
    (hp : p ∈ ps) (hq : q ∈ ps) (hpname : propertyOf? naming p = some property)
    (hqname : propertyOf? naming q = some property) : p = q := by
  by_contra hne
  have hsymm : Std.Symm fun p q => ∀ a, propertyOf? naming p = some a →
      ∀ b, propertyOf? naming q = some b → a ≠ b :=
    ⟨fun _ _ hdiffer a ha b hb => (hdiffer b hb a ha).symm⟩
  exact (List.pairwise_filterMap.1 hnames).forall hp hq hne property hpname property hqname rfl

-- Then each parameter decides about its own property.
theorem lookup_gather_iff {schema : Value} (h : gather naming {} ps = .ok g')
    (hnames : (ps.filterMap (propertyOf? naming)).Nodup) :
    Value.lookup g'.properties property = some schema ↔
      ∃ p ∈ ps, propertyOf? naming p = some property ∧ schemaOf? p = some schema := by
  rw [lookup_gather h, show Value.lookup (Gathered.properties {}) property = none from rfl,
    Option.or_none]
  have hmem : ∀ p, p ∈ (ps.filter fun p => propertyOf? naming p = some property).reverse ↔
      p ∈ ps ∧ propertyOf? naming p = some property := by simp
  constructor
  · intro hfound
    obtain ⟨p, hp, hschema⟩ := List.exists_of_findSome?_eq_some hfound
    obtain ⟨hp, hname⟩ := (hmem p).1 hp
    exact ⟨p, hp, hname, hschema⟩
  · rintro ⟨p, hp, hname, hschema⟩
    cases hfound : (ps.filter fun p => propertyOf? naming p = some property).reverse.findSome?
        schemaOf? with
    | none =>
      rw [List.findSome?_eq_none_iff] at hfound
      rw [← hfound p ((hmem p).2 ⟨hp, hname⟩), hschema]
    | some other =>
      obtain ⟨q, hq, hother⟩ := List.exists_of_findSome?_eq_some hfound
      obtain ⟨hq, hqname⟩ := (hmem q).1 hq
      rw [← hother, eq_of_propertyOf? hnames hq hp hqname hname, hschema]

theorem mem_required_gather (h : gather naming g ps = .ok g') : property ∈ g'.required ↔
    property ∈ g.required ∨
      ∃ p ∈ ps, propertyOf? naming p = some property ∧ isRequired p = true := by
  induction ps generalizing g with
  | nil =>
    obtain rfl := Except.ok.inj h
    simp
  | cons p rest ih =>
    cases p with
    | scalar s => cases h
    | list items => cases h
    | object fields =>
      rw [ih h, mem_required_add, or_assoc, List.exists_mem_cons_iff]

end ApiContract.Parameter
