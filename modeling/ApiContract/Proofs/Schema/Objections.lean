import ApiContract.Proofs.Schema.Position
import ApiContract.Proofs.Schema.Renaming.Prepare
import Mathlib.Data.List.Nodup

/-!
# Objections of strict mode

What strict mode objects to in a schema and in the schemas inside it, said without the search for it: the
fields with a name or a format that the dialect does not know, each at its position. The problems that
are found are these objections, each of them once.
-/

namespace ApiContract.Schema

variable {d : Dialect} {pointer name : String} {v : Value} {fields : Fields} {x : Violation}

/-! ## One field -/

/-- What strict mode objects to in a field: a name that is no keyword of the dialect, no annotation and
no extension, or a text that is no format of the dialect. The pointer to the schema is left open. -/
inductive Objection (d : Dialect) : String → Value → (String → Cause) → Prop
  | keyword {name : String} {v : Value} (unknown : Keyword.named? d name = none)
      (unlisted : name ∉ annotationNames) (plain : name.startsWith "x-" = false) :
      Objection d name v (.unknownKeyword name)
  | format {text : String} (unknown : Format.named? d text = none) :
      Objection d "format" (.str text) (.unknownFormat text)

theorem knowsKeyword_eq_false_iff :
    knowsKeyword d name = false ↔ Keyword.named? d name = none ∧ name ∉ annotationNames := by
  simp [knowsKeyword]

theorem knowsFormat_eq_false_iff {text : String} :
    knowsFormat d text = false ↔ Format.named? d text = none := by
  simp [knowsFormat]

-- Of a format only the text is looked at: both dialects know its name.
theorem fieldProblems_format (v : Value) : fieldProblems d pointer (.str "format", v) =
    (v.string?.toList.filter fun text => !knowsFormat d text).map fun text =>
      .here (.unknownFormat text pointer) := by
  have hknown : knowsKeyword d "format" = true := by cases d <;> decide
  have hextension : ¬ "format".startsWith "x-" = true := by decide +kernel
  have hfound : ∀ found : List Violation,
      (if "format".startsWith "x-" then [] else
        (if knowsKeyword d "format" then [] else [.here (.unknownKeyword "format" pointer)]) ++
          found) = found := by
    intro found
    rw [if_neg hextension, if_pos hknown, List.nil_append]
  rcases v with s | items | members
  case scalar =>
    cases s with
    | str text =>
      refine (hfound _).trans ?_
      cases hformat : knowsFormat d text <;> simp [Value.string?, hformat]
    | _ => exact hfound _
  all_goals exact hfound _

-- Of other fields only the name is looked at.
theorem mem_fieldProblems_of_ne_format (hname : name ≠ "format") :
    x ∈ fieldProblems d pointer (.str name, v) ↔
      knowsKeyword d name = false ∧ name.startsWith "x-" = false ∧
        x = .here (.unknownKeyword name pointer) := by
  rw [fieldProblems_of_ne_format d pointer hname]
  cases name.startsWith "x-" <;> cases knowsKeyword d name <;> simp

-- The problems of a field are the objections to it.
theorem mem_fieldProblems_iff :
    x ∈ fieldProblems d pointer (.str name, v) ↔
      ∃ cause, Objection d name v cause ∧ x = .here (cause pointer) := by
  by_cases hname : name = "format"
  · subst hname
    rw [fieldProblems_format, List.mem_map]
    constructor
    · rintro ⟨text, htext, rfl⟩
      rw [List.mem_filter, Option.mem_toList, Bool.not_eq_true', knowsFormat_eq_false_iff] at htext
      obtain rfl := Value.string?_eq_some_iff.1 htext.1
      exact ⟨_, .format htext.2, rfl⟩
    · rintro ⟨cause, hobjection, rfl⟩
      cases hobjection with
      | keyword unknown => cases d <;> exact absurd unknown (by decide)
      | @format text unknown =>
        refine ⟨text, List.mem_filter.2 ⟨List.mem_singleton_self text, ?_⟩, rfl⟩
        rw [knowsFormat_eq_false_iff.2 unknown]
        rfl
  · rw [mem_fieldProblems_of_ne_format hname, knowsKeyword_eq_false_iff]
    constructor
    · rintro ⟨⟨hunknown, hunlisted⟩, hplain, rfl⟩
      exact ⟨_, .keyword hunknown hunlisted hplain, rfl⟩
    · rintro ⟨cause, hobjection, rfl⟩
      cases hobjection with
      | keyword unknown unlisted plain => exact ⟨⟨unknown, unlisted⟩, plain, rfl⟩
      | format => exact absurd rfl hname

-- A field has one problem or none.
theorem fieldProblems_cases (d : Dialect) (pointer : String) (f : Scalar × Value) :
    fieldProblems d pointer f = [] ∨ ∃ x, fieldProblems d pointer f = [x] := by
  obtain ⟨key, v⟩ := f
  cases key with
  | str name =>
    by_cases hname : name = "format"
    · subst hname
      rw [fieldProblems_format]
      cases v.string? with
      | none => exact Or.inl rfl
      | some text => cases hformat : knowsFormat d text <;> simp [hformat]
    · rw [fieldProblems_of_ne_format d pointer hname]
      cases name.startsWith "x-" <;> cases knowsKeyword d name <;> simp
  | _ => exact Or.inl rfl

/-! ## Steps inwards -/

/-- The schemas that stand in the fields of a schema, each with the step that leads to it. -/
def innerSteps (fields : Fields) : List ((String × Nat) × Value) :=
  placeNames.flatMap fun name =>
    (((Value.lookup fields name).map (Place.ofName name).schemas).getD []).zipIdx.map fun q =>
      ((name, q.2), q.1)

/-- What a step to one of the schemas under a name adds to a pointer. -/
def stepText (fields : Fields) (name : String) (i : Nat) : String :=
  match Place.ofName name, Value.lookup fields name with
  | .schema, some (.list _) | .schemaList, _ => "/" ++ name ++ "/" ++ toString i
  | .schemaMap, some (.object members) =>
    "/" ++ name ++ "/" ++ ((members[i]?).map fun member => Value.scalarText member.1).getD ""
  | _, _ => "/" ++ name

theorem mem_placeNames_of_place (h : Place.ofName name ≠ .data) : name ∈ placeNames := by
  unfold Place.ofName at h
  simp only [placeNames, List.mem_append]
  split at h
  · exact Or.inl (Or.inl ‹_›)
  · split at h
    · exact Or.inl (Or.inr ‹_›)
    · split at h
      · exact Or.inr ‹_›
      · exact absurd rfl h

theorem mem_innerSteps_iff {step : String × Nat} {s : Value} :
    (step, s) ∈ innerSteps fields ↔ innerAt fields step.1 step.2 = some s := by
  obtain ⟨name, i⟩ := step
  simp only [innerSteps, List.mem_flatMap, List.mem_map, innerAt]
  constructor
  · rintro ⟨name', -, ⟨s', i'⟩, hmem, heq⟩
    cases heq
    rw [List.mem_zipIdx_iff_getElem?] at hmem
    cases hv : Value.lookup fields name with
    | none => simp [hv] at hmem
    | some v => simpa [hv] using hmem
  · intro h
    obtain ⟨v, hv, hs⟩ := Option.bind_eq_some_iff.1 h
    have hplace : Place.ofName name ≠ .data := by
      intro hdata
      rw [hdata, Place.schemas_data] at hs
      cases hs
    refine ⟨name, mem_placeNames_of_place hplace, (s, i), ?_, rfl⟩
    rw [List.mem_zipIdx_iff_getElem?, hv]
    exact hs

-- No step leads to two schemas.
theorem nodup_innerSteps (fields : Fields) : ((innerSteps fields).map (·.1)).Nodup := by
  rw [innerSteps, List.map_flatMap, List.nodup_flatMap]
  constructor
  · intro name _
    generalize ((Value.lookup fields name).map (Place.ofName name).schemas).getD [] = schemas
    have hindices : ((schemas.zipIdx.map fun q => ((name, q.2), q.1)).map (·.1)) =
        (List.range schemas.length).map fun i => (name, i) := by
      rw [List.range_eq_range', ← List.zipIdx_map_snd, List.map_map, List.map_map]
      rfl
    rw [hindices]
    exact List.nodup_range.map fun i j h => (Prod.mk.inj h).2
  · have hnames : placeNames.Nodup := by decide
    refine hnames.imp fun {name other} hne => ?_
    intro step hstep hstep'
    simp only [List.map_map, List.mem_map] at hstep hstep'
    obtain ⟨_, -, rfl⟩ := hstep
    obtain ⟨_, -, heq⟩ := hstep'
    exact hne (Prod.mk.inj heq).1.symm

-- These are the schemas that are looked at, at the pointers that the steps lead to.
theorem schemasUnder_eq (pointer name : String) (fields : Fields) :
    schemasUnder pointer name fields =
      (((Value.lookup fields name).map (Place.ofName name).schemas).getD []).zipIdx.map fun q =>
        (pointer ++ stepText fields name q.2, q.1) := by
  unfold schemasUnder stepText
  dsimp only
  cases Value.lookup fields name with
  | none => cases Place.ofName name <;> rfl
  | some v =>
    cases Place.ofName name with
    | data => cases v <;> rfl
    | schema => cases v <;> simp [Place.schemas, String.append_assoc]
    | schemaList => cases v <;> simp [Place.schemas, String.append_assoc]
    | schemaMap =>
      cases v with
      | object members =>
        refine List.ext_getElem? fun i => ?_
        simp only [Option.map_some, Option.getD_some, Place.schemas, List.getElem?_map,
          List.getElem?_zipIdx]
        cases hmember : members[i]? <;> simp [hmember, String.append_assoc]
      | _ => rfl

theorem innerSchemas_eq (pointer : String) (fields : Fields) : innerSchemas pointer fields =
    (innerSteps fields).map fun q => (pointer ++ stepText fields q.1.1 q.1.2, q.2) := by
  rw [innerSchemas, innerSteps, List.map_flatMap]
  refine List.flatMap_congr fun name _ => ?_
  rw [schemasUnder_eq, List.map_map]
  rfl

/-! ## The schemas in a schema -/

/-- What the steps to a position add to a pointer. -/
def pointerTo : Position → Value → String
  | [], _ => ""
  | (name, i) :: rest, .object fields =>
    stepText fields name i ++ ((innerAt fields name i).map (pointerTo rest)).getD ""
  | _ :: _, _ => ""

/-- A place in an inner schema, seen from the schema from which a step leads there. -/
def outward (step : String × Nat) (place : Position × String) : Position × String :=
  (step :: place.1, place.2)

/-- What strict mode objects to in a schema: a field, named by the position of the schema in which it
stands and by its own name. The pointer to that position is left open. -/
def ObjectsAt (d : Dialect) (s : Value) (place : Position × String) (cause : String → Cause) : Prop :=
  ∃ fields v, schemaAt place.1 s = some (.object fields) ∧ (.str place.2, v) ∈ fields ∧
    Objection d place.2 v cause

/-- The violation says what strict mode objects to at a place of the schema at a pointer. -/
def ObjectsFrom (d : Dialect) (pointer : String) (s : Value) (place : Position × String)
    (x : Violation) : Prop :=
  ∃ cause, ObjectsAt d s place cause ∧ x = .here (cause (pointer ++ pointerTo place.1 s))

section

variable {rest : Position} {step : String × Nat} {s : Value} {cause : String → Cause}

theorem objectsAt_nil_iff : ObjectsAt d (.object fields) ([], name) cause ↔
    ∃ v, (.str name, v) ∈ fields ∧ Objection d name v cause := by
  constructor
  · rintro ⟨_, v, hat, hv⟩
    cases hat
    exact ⟨v, hv⟩
  · rintro ⟨v, hv⟩
    exact ⟨fields, v, rfl, hv⟩

-- An objection further inside is one of a schema to which a step leads.
theorem objectsAt_cons_iff : ObjectsAt d (.object fields) (step :: rest, name) cause ↔
    ∃ s, innerAt fields step.1 step.2 = some s ∧ ObjectsAt d s (rest, name) cause := by
  constructor
  · rintro ⟨others, v, hat, hv⟩
    obtain ⟨s, hs, hrest⟩ := Option.bind_eq_some_iff.1 hat
    exact ⟨s, hs, others, v, hrest, hv⟩
  · rintro ⟨s, hs, others, v, hrest, hv⟩
    exact ⟨others, v, Option.bind_eq_some_iff.2 ⟨s, hs, hrest⟩, hv⟩

theorem not_objectsAt_of_not_object (h : s.isObject = false) (place : Position × String) :
    ¬ ObjectsAt d s place cause := by
  rintro ⟨fields, v, hat, -⟩
  cases s with
  | object => cases h
  | _ => cases hplace : place.1 <;> simp [hplace, schemaAt] at hat

-- In the fields of the schema itself the objections are the problems.
theorem objectsFrom_nil_iff : ObjectsFrom d pointer (.object fields) ([], name) x ↔
    ∃ v, (.str name, v) ∈ fields ∧ x ∈ fieldProblems d pointer (.str name, v) := by
  simp only [ObjectsFrom, objectsAt_nil_iff, pointerTo, String.append_empty, mem_fieldProblems_iff]
  constructor
  · rintro ⟨cause, ⟨v, hv, hobjection⟩, rfl⟩
    exact ⟨v, hv, cause, hobjection, rfl⟩
  · rintro ⟨v, hv, cause, hobjection, rfl⟩
    exact ⟨cause, ⟨v, hv, hobjection⟩, rfl⟩

theorem pointerTo_cons (hs : innerAt fields step.1 step.2 = some s) (rest : Position) :
    pointerTo (step :: rest) (.object fields) =
      stepText fields step.1 step.2 ++ pointerTo rest s := by
  obtain ⟨name, i⟩ := step
  rw [pointerTo, hs, Option.map_some, Option.getD_some]

theorem objectsFrom_cons_iff {place : Position × String} :
    ObjectsFrom d pointer (.object fields) (outward step place) x ↔
      ∃ s, innerAt fields step.1 step.2 = some s ∧
        ObjectsFrom d (pointer ++ stepText fields step.1 step.2) s place x := by
  have hpointer : ∀ s, innerAt fields step.1 step.2 = some s →
      pointer ++ pointerTo (outward step place).1 (.object fields) =
        pointer ++ stepText fields step.1 step.2 ++ pointerTo place.1 s := by
    intro s hs
    rw [outward, pointerTo_cons hs, String.append_assoc]
  constructor
  · rintro ⟨cause, hobjects, rfl⟩
    obtain ⟨s, hs, hrest⟩ := objectsAt_cons_iff.1 hobjects
    exact ⟨s, hs, cause, hrest, by rw [hpointer s hs]⟩
  · rintro ⟨s, hs, cause, hrest, rfl⟩
    exact ⟨cause, objectsAt_cons_iff.2 ⟨s, hs, hrest⟩, by rw [hpointer s hs]⟩

end

/-! ## Where the problems are -/

/-- The problems of one field, each with the place of the field. -/
def placedProblems (d : Dialect) (pointer : String) (f : Scalar × Value) :
    List ((Position × String) × Violation) :=
  match f with
  | (.str name, v) => (fieldProblems d pointer (.str name, v)).map fun x => (([], name), x)
  | _ => []

/-- The problems of a schema, each with the place at which it is found. -/
def placedWithin (d : Dialect) : Nat → String → Value → List ((Position × String) × Violation)
  | depth + 1, pointer, .object fields =>
    fields.flatMap (placedProblems d pointer) ++
      (innerSteps fields).flatMap fun q =>
        (placedWithin d depth (pointer ++ stepText fields q.1.1 q.1.2) q.2).map fun p =>
          (outward q.1 p.1, p.2)
  | _, _, _ => []

theorem map_snd_placedProblems (f : Scalar × Value) :
    (placedProblems d pointer f).map (·.2) = fieldProblems d pointer f := by
  obtain ⟨key, v⟩ := f
  cases key with
  | str name =>
    rw [placedProblems, List.map_map]
    exact List.map_id _
  | _ => rfl

-- Nothing is left out and nothing is added.
theorem map_snd_placedWithin (depth : Nat) (pointer : String) (s : Value) :
    (placedWithin d depth pointer s).map (·.2) = problemsWithin d depth pointer s := by
  induction depth generalizing pointer s with
  | zero => rfl
  | succ depth ih =>
    cases s with
    | object fields =>
      rw [placedWithin, problemsWithin, List.map_append, List.map_flatMap, List.map_flatMap,
        innerSchemas_eq, List.flatMap_map]
      congr 1
      · exact List.flatMap_congr fun f _ => map_snd_placedProblems f
      · refine List.flatMap_congr fun q _ => ?_
        rw [List.map_map]
        exact ih _ q.2
    | _ => rfl

theorem mem_placedProblems_iff {place : Position × String} :
    (place, x) ∈ fields.flatMap (placedProblems d pointer) ↔
      place.1 = [] ∧ ObjectsFrom d pointer (.object fields) place x := by
  obtain ⟨position, name⟩ := place
  rw [List.mem_flatMap]
  constructor
  · rintro ⟨⟨key, v⟩, hf, hx⟩
    cases key with
    | str name' =>
      obtain ⟨x', hx', heq⟩ := List.mem_map.1 hx
      cases heq
      exact ⟨rfl, objectsFrom_nil_iff.2 ⟨v, hf, hx'⟩⟩
    | _ => cases hx
  · rintro ⟨rfl, hobjects⟩
    obtain ⟨v, hf, hx⟩ := objectsFrom_nil_iff.1 hobjects
    exact ⟨_, hf, List.mem_map_of_mem hx⟩

-- With as many levels as the schema has nodes, the problems are the objections.
theorem mem_placedWithin_iff {depth : Nat} {s : Value} {place : Position × String}
    (hdepth : s.nodes ≤ depth) :
    (place, x) ∈ placedWithin d depth pointer s ↔ ObjectsFrom d pointer s place x := by
  induction depth generalizing pointer s place with
  | zero => exact absurd s.nodes_pos (by omega)
  | succ depth ih =>
    cases s with
    | object fields =>
      -- What stands inside has fewer nodes, so the remaining levels are enough for it.
      have hinner : ∀ (step : String × Nat) (s : Value),
          innerAt fields step.1 step.2 = some s → s.nodes ≤ depth := by
        intro step s hs
        have hsmaller : s.nodes < (Value.object fields).nodes := nodes_lt_of_innerAt hs
        omega
      rw [placedWithin, List.mem_append, mem_placedProblems_iff, List.mem_flatMap]
      constructor
      · rintro (h | ⟨⟨step, s⟩, hs, hplaced⟩)
        · exact h.2
        · rw [mem_innerSteps_iff] at hs
          obtain ⟨⟨place', x'⟩, hinside, heq⟩ := List.mem_map.1 hplaced
          cases heq
          exact objectsFrom_cons_iff.2 ⟨s, hs, (ih (hinner step s hs)).1 hinside⟩
      · intro h
        obtain ⟨_ | ⟨step, rest⟩, name⟩ := place
        · exact Or.inl ⟨rfl, h⟩
        · have hplace : ObjectsFrom d pointer (.object fields) (outward step (rest, name)) x := h
          obtain ⟨s, hs, hrest⟩ := objectsFrom_cons_iff.1 hplace
          refine Or.inr ⟨(step, s), mem_innerSteps_iff.2 hs, ?_⟩
          exact List.mem_map_of_mem ((ih (hinner step s hs)).2 hrest)
    | _ =>
      refine iff_of_false List.not_mem_nil ?_
      rintro ⟨cause, hobjects, -⟩
      exact not_objectsAt_of_not_object rfl place hobjects

/-! ### Each place once -/

theorem fst_of_mem_placedProblems {f : Scalar × Value} {place : Position × String}
    (h : place ∈ (placedProblems d pointer f).map (·.1)) : place.1 = [] ∧ f.1 = .str place.2 := by
  obtain ⟨key, v⟩ := f
  cases key with
  | str name =>
    rw [placedProblems, List.map_map] at h
    obtain ⟨x, -, rfl⟩ := List.mem_map.1 h
    exact ⟨rfl, rfl⟩
  | _ => cases h

-- The fields of a schema have different names, and each has one problem at most.
theorem nodup_placedProblems (hdistinct : Fields.distinct fields = true) :
    ((fields.flatMap (placedProblems d pointer)).map (·.1)).Nodup := by
  rw [List.map_flatMap, List.nodup_flatMap]
  constructor
  · rintro ⟨key, v⟩ -
    cases key with
    | str name =>
      rw [placedProblems]
      obtain hnone | ⟨x, hx⟩ := fieldProblems_cases d pointer (.str name, v)
      · rw [hnone]
        exact List.nodup_nil
      · rw [hx]
        exact List.nodup_singleton _
    | _ => exact List.nodup_nil
  · refine (Fields.pairwise_of_distinct hdistinct).imp fun {f g} hfg place hf hg => ?_
    rw [(fst_of_mem_placedProblems hf).2, (fst_of_mem_placedProblems hg).2, Fields.sameKey_str,
      beq_self_eq_true] at hfg
    cases hfg

section

variable {step : String × Nat} {placed : List ((Position × String) × Violation)}

theorem map_fst_outward : (placed.map fun p => (outward step p.1, p.2)).map (·.1) =
    (placed.map (·.1)).map (outward step) := by
  rw [List.map_map, List.map_map]
  rfl

theorem exists_of_mem_outward {place : Position × String}
    (h : place ∈ (placed.map fun p => (outward step p.1, p.2)).map (·.1)) :
    ∃ inner, outward step inner = place := by
  rw [map_fst_outward] at h
  obtain ⟨inner, -, heq⟩ := List.mem_map.1 h
  exact ⟨inner, heq⟩

end

theorem outward_injective (step : String × Nat) : Function.Injective (outward step) := by
  rintro ⟨position, name⟩ ⟨position', name'⟩ heq
  cases heq
  rfl

-- No place is found twice: the steps to different schemas differ.
theorem nodup_placedWithin {depth : Nat} {s : Value} (hkeyed : s.wellKeyed = true) :
    ((placedWithin d depth pointer s).map (·.1)).Nodup := by
  induction depth generalizing pointer s with
  | zero => exact List.nodup_nil
  | succ depth ih =>
    cases s with
    | object fields =>
      rw [Value.wellKeyed, Bool.and_eq_true] at hkeyed
      rw [placedWithin, List.map_append, List.nodup_append]
      refine ⟨nodup_placedProblems hkeyed.1, ?_, ?_⟩
      · rw [List.map_flatMap, List.nodup_flatMap]
        constructor
        · rintro ⟨step, s⟩ hs
          obtain ⟨v, hv, hmem⟩ := mem_of_innerAt (mem_innerSteps_iff.1 hs)
          have hinner : s.wellKeyed = true :=
            Place.wellKeyed_of_mem_schemas (Value.wellKeyed_of_mem hkeyed.2 hv) hmem
          rw [map_fst_outward]
          exact (ih hinner).map (outward_injective step)
        · have hsteps := nodup_innerSteps fields
          rw [List.Nodup, List.pairwise_map] at hsteps
          refine hsteps.imp fun {q r} hne place hq hr => hne ?_
          obtain ⟨_, rfl⟩ := exists_of_mem_outward hq
          obtain ⟨_, heq⟩ := exists_of_mem_outward hr
          exact (List.cons.inj (Prod.mk.inj heq).1).1.symm
      · intro place hfield other hinside heq
        rw [List.map_flatMap] at hfield hinside
        obtain ⟨f, -, hf⟩ := List.mem_flatMap.1 hfield
        obtain ⟨q, -, hq⟩ := List.mem_flatMap.1 hinside
        obtain ⟨_, rfl⟩ := exists_of_mem_outward hq
        have hnil : place.1 = [] := (fst_of_mem_placedProblems hf).1
        rw [heq] at hnil
        cases hnil
    | _ => exact List.nodup_nil

/-! ## The problems of a schema -/

/-- A schema has something that strict mode objects to. -/
def HasObjection (d : Dialect) (s : Value) : Prop := ∃ place cause, ObjectsAt d s place cause

-- The problems are the objections, each of them once.
theorem exists_places {s : Value} (hkeyed : s.wellKeyed = true) :
    ∃ places : List (Position × String), places.Nodup ∧
      (∀ place, place ∈ places ↔ ∃ cause, ObjectsAt d s place cause) ∧
      List.Forall₂ (ObjectsFrom d "#" s) places (problems d s) := by
  have hmem : ∀ place x, (place, x) ∈ placedWithin d s.nodes "#" s ↔ ObjectsFrom d "#" s place x :=
    fun place x => mem_placedWithin_iff (Nat.le_refl _)
  refine ⟨(placedWithin d s.nodes "#" s).map (·.1), nodup_placedWithin hkeyed, fun place => ?_, ?_⟩
  · constructor
    · intro hplace
      obtain ⟨⟨_, x⟩, hx, rfl⟩ := List.mem_map.1 hplace
      obtain ⟨cause, hobjects, -⟩ := (hmem _ _).1 hx
      exact ⟨cause, hobjects⟩
    · rintro ⟨cause, hobjects⟩
      exact List.mem_map.2 ⟨_, (hmem place _).2 ⟨cause, hobjects, rfl⟩, rfl⟩
  · rw [problems, ← map_snd_placedWithin, List.forall₂_map_left_iff, List.forall₂_map_right_iff,
      List.forall₂_same]
    exact fun p hp => (hmem p.1 p.2).1 hp

theorem problems_eq_nil_iff {s : Value} : problems d s = [] ↔ ¬ HasObjection d s := by
  rw [problems, ← map_snd_placedWithin, List.map_eq_nil_iff, List.eq_nil_iff_forall_not_mem]
  constructor
  · rintro hnone ⟨place, cause, hobjects⟩
    exact hnone _ ((mem_placedWithin_iff (Nat.le_refl _)).2 ⟨cause, hobjects, rfl⟩)
  · rintro hnot ⟨place, x⟩ hx
    obtain ⟨cause, hobjects, -⟩ := (mem_placedWithin_iff (Nat.le_refl _)).1 hx
    exact hnot ⟨place, cause, hobjects⟩

-- A schema has an objection when one of its fields has or a schema in it.
theorem hasObjection_object_iff : HasObjection d (.object fields) ↔
    (∃ name v cause, (.str name, v) ∈ fields ∧ Objection d name v cause) ∨
      ∃ name v, Value.lookup fields name = some v ∧
        ∃ s ∈ (Place.ofName name).schemas v, HasObjection d s := by
  constructor
  · rintro ⟨⟨_ | ⟨step, rest⟩, name⟩, cause, hobjects⟩
    · obtain ⟨v, hv, hobjection⟩ := objectsAt_nil_iff.1 hobjects
      exact Or.inl ⟨name, v, cause, hv, hobjection⟩
    · obtain ⟨s, hs, hrest⟩ := objectsAt_cons_iff.1 hobjects
      obtain ⟨v, hv, hat⟩ := Option.bind_eq_some_iff.1 hs
      exact Or.inr ⟨step.1, v, hv, s, List.mem_of_getElem? hat, _, cause, hrest⟩
  · rintro (⟨name, v, cause, hv, hobjection⟩ | ⟨name, v, hv, s, hs, ⟨rest, other⟩, cause, hrest⟩)
    · exact ⟨([], name), cause, objectsAt_nil_iff.2 ⟨v, hv, hobjection⟩⟩
    · obtain ⟨i, hi⟩ := List.mem_iff_getElem?.1 hs
      refine ⟨((name, i) :: rest, other), cause, objectsAt_cons_iff.2 ⟨s, ?_, hrest⟩⟩
      rw [innerAt, hv]
      exact hi

/-- Where a schema has no problems, the schemas inside it have none. -/
theorem problems_of_lookup {s : Value} (h : problems d (.object fields) = [])
    (hv : Value.lookup fields name = some v) (hs : s ∈ (Place.ofName name).schemas v) :
    problems d s = [] := by
  rw [problems_eq_nil_iff] at h ⊢
  exact fun hinner => h (hasObjection_object_iff.2 (Or.inr ⟨name, v, hv, s, hs, hinner⟩))

end ApiContract.Schema
