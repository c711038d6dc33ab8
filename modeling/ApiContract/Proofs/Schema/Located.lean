import ApiContract.Proofs.Result
import ApiContract.Proofs.Schema.Outcome

/-!
# Where violations are

A violation that a check finds is at a part of the value that is checked: its path leads there from the
value, step by step. A rule about the whole value reports there, a rule that hands parts on to further
schemas reports at these parts. Only the third draft reports at a place that need not exist: what is
missing in an object, as if it stood in a property of it.
-/

namespace ApiContract

/-! ## Parts -/

namespace Value

/-- The part of a value that a step leads to. -/
def part? (v : Value) : Step → Option Value
  | .member name => v.member? name
  | .index i => v.items?.bind (·[i]?)

/-- The part of a value that a path leads to. -/
def partAt? : List Step → Value → Option Value
  | [], v => some v
  | step :: path, v => (v.part? step).bind (partAt? path)

/-- The path leads to a part of the value. -/
def HasPart (v : Value) (path : List Step) : Prop := ∃ part, partAt? path v = some part

variable {v part : Value} {step : Step} {path : List Step} {fields : Fields} {items : List Value}
  {name : String}

theorem hasPart_nil (v : Value) : v.HasPart [] := ⟨v, rfl⟩

theorem hasPart_cons_iff :
    v.HasPart (step :: path) ↔ ∃ part, v.part? step = some part ∧ part.HasPart path := by
  simp only [HasPart, partAt?, Option.bind_eq_some_iff]
  exact ⟨fun ⟨last, part, hpart, hlast⟩ => ⟨part, hpart, last, hlast⟩,
    fun ⟨part, hpart, last, hlast⟩ => ⟨last, part, hpart, hlast⟩⟩

-- A text has no part but itself.
theorem eq_nil_of_hasPart_str {s : String} (h : (Value.str s).HasPart path) : path = [] := by
  cases path with
  | nil => rfl
  | cons step path =>
    obtain ⟨part, hpart, -⟩ := hasPart_cons_iff.1 h
    cases step <;> cases hpart

theorem wellKeyed_of_part? (hv : v.wellKeyed = true) (h : v.part? step = some part) :
    part.wellKeyed = true := by
  cases v with
  | scalar s => cases step <;> cases h
  | list items =>
    cases step with
    | member name => cases h
    | index i => exact wellKeyed_of_mem_list hv (List.mem_of_getElem? h)
  | object fields =>
    cases step with
    | index i => cases h
    | member name =>
      rw [wellKeyed, Bool.and_eq_true] at hv
      exact wellKeyed_of_mem hv.2 (mem_of_lookup h)

-- A property of an object with distinct keys is the part under its name.
theorem part?_of_mem_namedFields {p : String × Value} (hv : (Value.object fields).wellKeyed = true)
    (h : p ∈ Schema.Rule.namedFields fields) :
    (Value.object fields).part? (.member p.1) = some p.2 := by
  rw [wellKeyed, Bool.and_eq_true] at hv
  obtain ⟨⟨key, w⟩, hmem, hnamed⟩ := List.mem_filterMap.1 h
  cases key with
  | str name =>
    cases hnamed
    exact lookup_of_mem hv.1 hmem
  | _ => cases hnamed

end Value

/-- The violation is at a part of the value, or says what is missing in a part and is reported one step
further. -/
def Violation.LiesIn (w : Violation) (v : Value) : Prop :=
  v.HasPart w.path ∨ ∃ front name, w = ⟨front ++ [.member "required"], .missing name⟩ ∧ v.HasPart front

namespace Violation

variable {w : Violation} {v part : Value} {step : Step}

theorem liesIn_here (cause : Cause) : (here cause).LiesIn v := .inl v.hasPart_nil

-- What is in a part is in the whole.
theorem LiesIn.under (hpart : v.part? step = some part) (h : w.LiesIn part) :
    (w.under step).LiesIn v := by
  obtain h | ⟨front, name, rfl, h⟩ := h
  · exact .inl (Value.hasPart_cons_iff.2 ⟨part, hpart, h⟩)
  · exact .inr ⟨step :: front, name, rfl, Value.hasPart_cons_iff.2 ⟨part, hpart, h⟩⟩

-- A name has no parts, so what is in it is where every value begins.
theorem LiesIn.of_str {s : String} (h : w.LiesIn (.str s)) (v : Value) : w.LiesIn v := by
  obtain h | ⟨front, name, rfl, h⟩ := h
  · rw [LiesIn, Value.eq_nil_of_hasPart_str h]
    exact .inl v.hasPart_nil
  · rw [Value.eq_nil_of_hasPart_str h]
    exact .inr ⟨[], name, rfl, v.hasPart_nil⟩

end Violation

namespace Outcome

/-- All violations that are found are in the value. -/
def Within (v : Value) (o : Outcome) : Prop := ∀ w ∈ o.violations, w.LiesIn v

variable {v part : Value} {α : Type}

@[simp] theorem within_valid : Within v .valid := nofun

@[simp] theorem within_stopped (fault : Fault) : Within v (.stopped fault) := nofun

@[simp] theorem within_violated (cause : Cause) : Within v (.violated cause) := by
  intro w hw
  rw [List.mem_singleton.1 hw]
  exact Violation.liesIn_here cause

@[simp] theorem within_require (ok : Bool) (cause : Cause) : Within v (.require ok cause) := by
  cases ok
  · exact within_violated cause
  · exact within_valid

theorem Within.andThen {a : Outcome} {b : Unit → Outcome} (ha : Within v a)
    (hb : Within v (b ())) : Within v (a.andThen b) := by
  intro w hw
  unfold Outcome.andThen at hw
  split at hw
  · exact ha w hw
  · rcases List.mem_append.1 hw with hw | hw
    · exact ha w hw
    · exact hb w hw

theorem within_each {check : α → Outcome} {xs : List α} (h : ∀ x ∈ xs, Within v (check x)) :
    Within v (each check xs) := by
  induction xs with
  | nil => exact within_valid
  | cons x xs ih =>
    obtain ⟨hx, hxs⟩ := List.forall_mem_cons.1 h
    exact hx.andThen (ih hxs)

-- What is found in a part is found in the whole.
theorem Within.under {step : Step} {o : Outcome} (hpart : v.part? step = some part)
    (h : Within part o) : Within v (o.under step) := by
  intro w hw
  obtain ⟨w', hw', rfl⟩ := List.mem_map.1 hw
  exact (h w' hw').under hpart

-- What is asked for is among what is found.
theorem mem_of_all {o : Outcome} {vs : List Violation} {w : Violation} (h : o.all = .ok vs)
    (hw : w ∈ vs) : w ∈ o.violations := by
  unfold all at h
  split at h
  · cases h
  · exact Except.ok.inj h ▸ hw

theorem mem_of_first {o : Outcome} {vs : List Violation} {w : Violation} (h : o.first = .ok vs)
    (hw : w ∈ vs) : w ∈ o.violations := by
  unfold first at h
  split at h
  · rename_i first rest hfirst
    rw [← Except.ok.inj h, List.mem_singleton] at hw
    rw [hfirst, hw]
    exact List.mem_cons_self
  · split at h
    · cases h
    · rw [← Except.ok.inj h] at hw
      cases hw

/-! ### Outcomes that it takes a computation to arrive at -/

@[simp] theorem within_ofResult_pure {o : Outcome} :
    Within v (ofResult (pure o)) ↔ Within v o := Iff.rfl

-- Nothing is found where the computation fails.
@[simp] theorem within_ofResult_bind {x : Except Fault α} {f : α → Except Fault Outcome} :
    Within v (ofResult (x >>= f)) ↔ ∀ a, x = .ok a → Within v (ofResult (f a)) := by
  cases x with
  | error fault => exact ⟨fun _ _ => nofun, fun _ => within_stopped fault⟩
  | ok a => exact ⟨fun h b hb => Except.ok.inj hb ▸ h, fun h => h a rfl⟩

@[simp] theorem within_ofResult_map {x : Except Fault α} {f : α → Outcome} :
    Within v (ofResult (f <$> x)) ↔ ∀ a, x = .ok a → Within v (f a) :=
  within_ofResult_bind

end Outcome

namespace Schema

open Outcome

variable {ctx : Context} {judge : Judge} {siblings : Fields} {arg schema v part : Value}

/-- What the judge finds in a well-keyed value lies in it. -/
def Judge.Locates (judge : Judge) : Prop :=
  ∀ fields v, v.wellKeyed = true → Within v (judge fields v)

theorem Judge.Locates.apply (h : judge.Locates) (hv : v.wellKeyed = true) :
    Within v (judge.apply schema v) := by
  unfold Judge.apply
  split
  · exact h _ v hv
  · exact within_valid
  · exact within_violated _
  · exact within_stopped _

theorem Judge.Locates.applyAt {step : Step} (h : judge.Locates) (hv : v.wellKeyed = true)
    (hpart : v.part? step = some part) : Within v (judge.applyAt step schema part) := by
  unfold Judge.applyAt
  split
  · exact within_violated _
  · exact (h.apply (Value.wellKeyed_of_part? hv hpart)).under hpart

/-! ## Rules about the whole value -/

namespace Rule

theorem within_numberBound (bound : Bound) (orEqual : Bool) :
    Within v (numberBound bound orEqual arg v) := by
  unfold numberBound
  split
  · simp
  · split <;> simp

theorem within_multipleOf : Within v (multipleOf arg v) := by
  unfold multipleOf
  split
  · simp
  · split <;> simp

theorem within_sizeBound (bound : Bound) (size : Nat) (cause : Cause) :
    Within v (sizeBound bound size arg cause) := by
  unfold sizeBound
  split <;> simp

theorem within_textSize (bound : Bound) : Within v (textSize bound arg v) := by
  unfold textSize
  split
  · exact within_sizeBound _ _ _
  · simp

theorem within_pattern : Within v (pattern arg v) := by
  unfold pattern
  split <;> simp

theorem within_format : Within v (format ctx arg v) := by
  unfold format
  repeat' split
  all_goals simp

theorem within_type : Within v (type ctx judge siblings arg v) := by
  unfold type
  split
  · unfold singleType
    split
    · simp
    · refine Within.andThen ?_ (by simp)
      split <;> simp
  · simp [anyTypeOrSchema]
  · simp [anyType]

theorem within_disallow : Within v (disallow ctx judge arg v) := by
  unfold disallow
  refine within_ofResult_bind.2 fun types _ => within_each fun type _ => ?_
  simp

theorem within_enum : Within v (enum arg v) := by
  unfold enum
  simp

theorem within_listSize (bound : Bound) : Within v (listSize bound arg v) := by
  unfold listSize
  split
  · exact within_sizeBound _ _ _
  · simp

theorem within_uniqueItems : Within v (uniqueItems arg v) := by
  unfold uniqueItems
  split <;> simp

theorem within_containsCounted : Within v (containsCounted judge siblings arg v) := by
  unfold containsCounted
  split
  · dsimp only
    split
    · simp
    · refine within_ofResult_bind.2 fun count _ => ?_
      split
      · simp
      · refine within_ofResult_bind.2 fun below _ => ?_
        split <;> simp
  · simp

theorem within_contains : Within v (contains ctx judge siblings arg v) := by
  unfold contains
  split
  · unfold containsSome
    split <;> simp
  · unfold containsSome
    split <;> simp
  · exact within_containsCounted

theorem within_unevaluatedItems {judges : Context → Judge} {depth : Nat} :
    Within v (unevaluatedItems ctx judges depth siblings v) := by
  unfold unevaluatedItems
  split <;> simp

theorem within_objectSize (bound : Bound) : Within v (objectSize bound arg v) := by
  unfold objectSize
  split
  · exact within_sizeBound _ _ _
  · simp

theorem within_required : Within v (required arg v) := by
  unfold required
  split
  · simp only [within_ofResult_bind]
    intro names _
    exact within_each fun name _ => by simp
  · simp

theorem within_namesAsked {fields : Fields} {key : Scalar} :
    Within v (namesAsked fields key arg) := by
  unfold namesAsked
  refine within_ofResult_bind.2 fun names _ => within_each fun name _ => ?_
  simp

theorem within_dependentRequired : Within v (dependentRequired arg v) := by
  unfold dependentRequired
  split
  · exact within_ofResult_bind.2 fun demands _ => within_each fun entry _ => within_namesAsked
  · simp

theorem within_unevaluatedProperties {judges : Context → Judge} {depth : Nat} :
    Within v (unevaluatedProperties ctx judges depth siblings arg v) := by
  unfold unevaluatedProperties
  split <;> simp

theorem within_anyOf : Within v (anyOf judge arg v) := by
  unfold anyOf
  simp

theorem within_oneOf : Within v (oneOf judge arg v) := by
  unfold oneOf
  refine within_ofResult_bind.2 fun schemas _ => within_ofResult_bind.2 fun branch _ => ?_
  split <;> simp

theorem within_not : Within v (Rule.not judge arg v) := by
  unfold Rule.not
  simp

theorem within_forbiddenProperties {extra : List (String × Value)} :
    Within v (forbiddenProperties siblings extra) := by
  unfold forbiddenProperties
  dsimp only
  split <;> simp

end Rule

/-! ## Rules that hand parts on -/

-- What is kept of a list is in the list.
theorem mem_of_mem_filterM {α : Type} {ok : α → Except Fault Bool} {xs kept : List α} {x : α}
    (h : filterM ok xs = .ok kept) (hx : x ∈ kept) : x ∈ xs := by
  induction xs generalizing kept with
  | nil =>
    cases h
    exact hx
  | cons y rest ih =>
    obtain ⟨keep, -, h⟩ := Result.bind_eq_ok_iff.1 h
    obtain ⟨others, hothers, h⟩ := Result.bind_eq_ok_iff.1 h
    obtain rfl := Except.ok.inj h
    cases keep with
    | false => exact List.mem_cons_of_mem y (ih hothers hx)
    | true =>
      rcases List.mem_cons.1 hx with rfl | hx
      · exact List.mem_cons_self
      · exact List.mem_cons_of_mem y (ih hothers hx)

namespace Judge.Locates

variable {fields : Fields} {xs : List Value}

section

variable (h : judge.Locates) (hv : v.wellKeyed = true)

include h hv

theorem allOf : Within v (Rule.allOf judge arg v) := by
  unfold Rule.allOf
  exact within_ofResult_bind.2 fun schemas _ => within_each fun schema _ => h.apply hv

theorem extension : Within v (Rule.extension judge arg v) := by
  unfold Rule.extension
  split
  · exact h.apply hv
  · exact h.allOf hv

theorem ifThenElse : Within v (Rule.ifThenElse judge siblings arg v) := by
  unfold Rule.ifThenElse
  refine within_ofResult_bind.2 fun holds _ => ?_
  split
  · exact h.apply hv
  · simp

theorem dependentSchemas : Within v (Rule.dependentSchemas judge arg v) := by
  unfold Rule.dependentSchemas
  split
  · exact within_ofResult_bind.2 fun demands _ => within_each fun entry _ => h.apply hv
  · simp

theorem dependencies : Within v (Rule.dependencies ctx judge arg v) := by
  unfold Rule.dependencies
  split
  · refine within_ofResult_bind.2 fun demands _ => within_each fun entry _ => ?_
    unfold Rule.dependency
    split
    · exact Rule.within_namesAsked
    · exact h.apply hv
    · exact Rule.within_namesAsked
    · exact Rule.within_namesAsked
    · exact h.apply hv
  · simp

end

/-! ### Items -/

-- The items behind a position stand at their places in the whole list.
theorem eachItem (h : judge.Locates) (hv : (Value.list xs).wellKeyed = true) (start : Nat) :
    Within (.list xs) (Rule.eachItem judge schema start (xs.drop start)) := by
  refine within_each fun p hp => h.applyAt hv ?_
  obtain ⟨hstart, hp⟩ := List.mem_zipIdx_iff_le_and_getElem?_sub.1 hp
  rwa [List.getElem?_drop, Nat.add_sub_cancel' hstart] at hp

theorem itemsBehind (h : judge.Locates) (hv : (Value.list xs).wellKeyed = true) :
    Within (.list xs) (Rule.itemsBehind judge siblings arg xs) := by
  unfold Rule.itemsBehind
  refine within_ofResult_bind.2 fun start _ => ?_
  dsimp only
  split
  · simp
  · simp
  · exact h.eachItem hv start

theorem itemsByPosition (h : judge.Locates) (hv : (Value.list xs).wellKeyed = true) :
    Within (.list xs) (Rule.itemsByPosition judge arg xs) := by
  unfold Rule.itemsByPosition
  refine within_ofResult_bind.2 fun schemas _ => within_each fun p hp => h.applyAt hv ?_
  have hzip := List.mem_zipIdx_iff_getElem?.1 hp
  exact (List.getElem?_zip_eq_some.1 hzip).1

theorem items (h : judge.Locates) (hv : v.wellKeyed = true) :
    Within v (Rule.items ctx judge siblings arg v) := by
  unfold Rule.items
  split
  · split
    · exact h.eachItem hv 0
    · exact h.itemsBehind hv
    · exact h.itemsBehind hv
    · split
      · exact h.itemsByPosition hv
      · exact h.eachItem hv 0
  · simp

theorem prefixItems (h : judge.Locates) (hv : v.wellKeyed = true) :
    Within v (Rule.prefixItems judge arg v) := by
  unfold Rule.prefixItems
  split
  · exact h.itemsByPosition hv
  · simp

theorem additionalItems (h : judge.Locates) (hv : v.wellKeyed = true) :
    Within v (Rule.additionalItems judge siblings arg v) := by
  unfold Rule.additionalItems
  split
  · simp
  · simp
  · refine within_ofResult_bind.2 fun start _ => ?_
    unfold Rule.extraItems
    split
    · exact h.eachItem hv start
    · simp
  · simp

/-! ### Properties -/

theorem property (h : judge.Locates) (hv : (Value.object fields).wellKeyed = true)
    (entry : Scalar × Value) : Within (.object fields) (Rule.property judge fields entry) := by
  unfold Rule.property
  split
  · split
    · rename_i w hw
      exact h.applyAt hv hw
    · simp
  · simp

-- What is missing is reported behind the object in which it is missing.
theorem propertyOrMissing (h : judge.Locates) (hv : (Value.object fields).wellKeyed = true)
    (entry : Scalar × Value) :
    Within (.object fields) (Rule.propertyOrMissing judge fields entry) := by
  unfold Rule.propertyOrMissing
  split
  · exact h.property hv entry
  · refine within_ofResult_bind.2 fun members _ => ?_
    intro w hw
    obtain ⟨w', hw', rfl⟩ := List.mem_map.1 hw
    unfold Outcome.require at hw'
    split at hw'
    · cases hw'
    · rw [List.mem_singleton.1 hw']
      exact .inr ⟨[], _, rfl, Value.hasPart_nil _⟩

theorem properties (h : judge.Locates) (hv : v.wellKeyed = true) :
    Within v (Rule.properties ctx judge arg v) := by
  unfold Rule.properties
  split
  · refine within_ofResult_bind.2 fun schemas _ => ?_
    split
    · exact within_each fun entry _ => h.propertyOrMissing hv entry
    · exact within_each fun entry _ => h.property hv entry
  · simp

theorem patternProperties (h : judge.Locates) (hv : v.wellKeyed = true) :
    Within v (Rule.patternProperties judge arg v) := by
  unfold Rule.patternProperties
  split
  · refine within_ofResult_bind.2 fun schemas _ => within_each fun entry _ =>
      within_each fun p hp => within_ofResult_bind.2 fun occurs _ => ?_
    split
    · exact h.applyAt hv (Value.part?_of_mem_namedFields hv hp)
    · simp
  · simp

-- What is wrong with a name is wrong with the object that has it.
theorem propertyNames (h : judge.Locates) : Within v (Rule.propertyNames judge arg v) := by
  unfold Rule.propertyNames
  split
  · refine within_each fun p _ w hw => ?_
    have hname : w.LiesIn (.str p.1) := h.apply rfl w hw
    exact hname.of_str _
  · simp

theorem additionalProperties (h : judge.Locates) (hv : v.wellKeyed = true) :
    Within v (Rule.additionalProperties ctx judge siblings arg v) := by
  unfold Rule.additionalProperties
  split
  · rename_i fields
    refine within_ofResult_bind.2 fun extra hextra => ?_
    have hnamed : ∀ p ∈ extra, p ∈ Rule.namedFields fields := by
      obtain ⟨patterns, -, hextra⟩ := Result.bind_eq_ok_iff.1 hextra
      exact fun p hp => mem_of_mem_filterM hextra hp
    split
    · refine within_each fun p hp => h.applyAt hv (Value.part?_of_mem_namedFields hv ?_)
      exact hnamed p (List.mem_reverse.1 hp)
    · simp
    · simp
    · split
      · simp
      · exact Rule.within_forbiddenProperties
  · simp

end Judge.Locates

/-! ## Evaluation -/

-- A keyword whose schemas are applied by a judge that locates violations locates them as well.
theorem within_checkKeyword {judges : Context → Judge} {depth : Nat} (h : (judges ctx).Locates)
    (hv : v.wellKeyed = true) (keyword : Keyword) :
    Within v (checkKeyword ctx judges depth siblings arg v keyword) := by
  cases keyword with
  | multipleOf => exact Rule.within_multipleOf
  | maximum | minimum | exclusiveMaximum | exclusiveMinimum => exact Rule.within_numberBound _ _
  | maxLength | minLength => exact Rule.within_textSize _
  | pattern => exact Rule.within_pattern
  | format => exact Rule.within_format
  | maxItems | minItems => exact Rule.within_listSize _
  | uniqueItems => exact Rule.within_uniqueItems
  | items => exact h.items hv
  | prefixItems => exact h.prefixItems hv
  | additionalItems => exact h.additionalItems hv
  | contains => exact Rule.within_contains
  | unevaluatedItems => exact Rule.within_unevaluatedItems
  | maxProperties | minProperties => exact Rule.within_objectSize _
  | required => exact Rule.within_required
  | properties => exact h.properties hv
  | patternProperties => exact h.patternProperties hv
  | additionalProperties => exact h.additionalProperties hv
  | propertyNames => exact h.propertyNames
  | dependentRequired => exact Rule.within_dependentRequired
  | dependentSchemas => exact h.dependentSchemas hv
  | dependencies => exact h.dependencies hv
  | unevaluatedProperties => exact Rule.within_unevaluatedProperties
  | enum => exact Rule.within_enum
  | const | readOnly | writeOnly => exact within_require _ _
  | type => exact Rule.within_type
  | disallow => exact Rule.within_disallow
  | allOf => exact h.allOf hv
  | anyOf => exact Rule.within_anyOf
  | oneOf => exact Rule.within_oneOf
  | not => exact Rule.within_not
  | extension => exact h.extension hv
  | ifThenElse => exact h.ifThenElse hv
  | reference => exact within_ofResult_bind.2 fun schema _ => h.apply hv
  | recursiveReference => exact h.apply hv

theorem within_checkField {judges : Context → Judge} {depth : Nat} (h : (judges ctx).Locates)
    (hv : v.wellKeyed = true) (field : Scalar × Value) :
    Within v (checkField ctx judges depth siblings v field) := by
  unfold checkField
  split
  · split
    · exact within_checkKeyword h hv _
    · simp
  · simp

/-- However deep a schema is evaluated, the violations that it finds lie in the value. -/
theorem locates_evaluate (depth : Nat) (ctx : Context) : Judge.Locates (evaluate depth ctx) := by
  induction depth generalizing ctx with
  | zero => exact fun _ _ _ => within_stopped _
  | succ depth ih =>
    intro fields v hv
    exact within_ofResult_bind.2 fun inner _ =>
      within_each fun field _ => within_checkField (ih inner) hv field

theorem within_check {dialect : Dialect} {direction : Direction} {root : Value}
    (hv : v.wellKeyed = true) : Within v (check dialect direction root v) := by
  have hroot : Judge.Locates (checkFields ⟨dialect, direction, root, none⟩ (levels root v)) :=
    fun _ _ hv => within_each fun field _ => within_checkField (locates_evaluate _ _) hv field
  exact hroot.apply hv

end Schema

namespace Engine

variable {options : EngineOptions} {version : Option String} {direction : Direction}
  {schema v : Value} {check : Check} {answer : Verdict} {o : Outcome} {w : Violation}

-- Whichever violations are asked for, they are among those that are found.
theorem mem_of_verdict (h : verdict options o = .ok answer) (hw : w ∈ answer.violations) :
    w ∈ o.violations := by
  unfold verdict at h
  split at h
  · rename_i violations hviolations
    obtain rfl := Except.ok.inj h
    split at hviolations
    · exact Outcome.mem_of_all hviolations hw
    · exact Outcome.mem_of_first hviolations hw
  · cases h

/-- Every violation that a compiled schema reports in a well-keyed value lies in the value. -/
theorem liesIn_of_compileSchema
    (hcheck : compileSchema options version direction schema = .ok check)
    (hv : v.wellKeyed = true) (hanswer : check v = .ok answer) (hw : w ∈ answer.violations) :
    w.LiesIn v := by
  obtain ⟨-, -, -, prepared, -, rfl⟩ := compileSchema_eq_ok_iff.1 hcheck
  exact Schema.within_check hv w (mem_of_verdict hanswer hw)

end Engine

end ApiContract
