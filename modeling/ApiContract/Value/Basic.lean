import ApiContract.Calendar.Date
import ApiContract.Number.Binary64

/-!
# Values

A value is what a document or an instance holds: a scalar, a list, or an object whose fields keep
the order in which they were written. Integers and binary64 numbers are distinct scalars. The keys
of an object are scalars too, because a YAML mapping may be keyed by a number or a truth value;
objects read from JSON have string keys only.
-/

namespace ApiContract

/-- A value without parts. -/
inductive Scalar
  | null
  | bool (b : Bool)
  | int (n : Int)
  | float (x : Binary64)
  | str (s : String)
  | date (d : Date)
  | moment (m : Moment)
  | bytes (data : List UInt8)
  deriving DecidableEq, Repr, Inhabited

/-- A document or an instance, or a part of one. -/
inductive Value
  | scalar (s : Scalar)
  | list (items : List Value)
  | object (fields : List (Scalar × Value))
  deriving Repr, Inhabited

/-- The fields of an object in the order in which they were written. -/
abbrev Fields := List (Scalar × Value)

namespace Value

/-- The value null. -/
@[match_pattern] abbrev null : Value := .scalar .null
/-- A truth value. -/
@[match_pattern] abbrev bool (b : Bool) : Value := .scalar (.bool b)
/-- An integer. -/
@[match_pattern] abbrev int (n : Int) : Value := .scalar (.int n)
/-- A binary64 number. -/
@[match_pattern] abbrev float (x : Binary64) : Value := .scalar (.float x)
/-- A text. -/
@[match_pattern] abbrev str (s : String) : Value := .scalar (.str s)

/-! ## Equality -/

mutual
/-- Are two values the same, constructor by constructor? -/
def same : Value → Value → Bool
  | .scalar a, .scalar b => a == b
  | .list xs, .list ys => sameItems xs ys
  | .object fs, .object gs => sameFields fs gs
  | _, _ => false

/-- Are two lists the same, item by item? -/
def sameItems : List Value → List Value → Bool
  | [], [] => true
  | x :: xs, y :: ys => same x y && sameItems xs ys
  | _, _ => false

/-- Are two objects the same, field by field in their order? -/
def sameFields : Fields → Fields → Bool
  | [], [] => true
  | (k, x) :: fs, (l, y) :: gs => k == l && same x y && sameFields fs gs
  | _, _ => false
end

mutual
/-- `same` decides equality. -/
theorem same_iff : ∀ a b : Value, same a b = true ↔ a = b
  | .scalar a, b => by cases b <;> simp [same]
  | .list xs, b => by
    cases b with
    | list ys => simp [same, sameItems_iff xs]
    | _ => simp [same]
  | .object fs, b => by
    cases b with
    | object gs => simp [same, sameFields_iff fs]
    | _ => simp [same]

/-- `sameItems` decides equality. -/
theorem sameItems_iff : ∀ xs ys : List Value, sameItems xs ys = true ↔ xs = ys
  | [], ys => by cases ys <;> simp [sameItems]
  | x :: xs, ys => by
    cases ys with
    | nil => simp [sameItems]
    | cons y ys => simp [sameItems, same_iff x, sameItems_iff xs]

/-- `sameFields` decides equality. -/
theorem sameFields_iff : ∀ fs gs : Fields, sameFields fs gs = true ↔ fs = gs
  | [], gs => by cases gs <;> simp [sameFields]
  | (k, x) :: fs, gs => by
    cases gs with
    | nil => simp [sameFields]
    | cons g gs =>
      obtain ⟨l, y⟩ := g
      simp [sameFields, same_iff x, sameFields_iff fs, and_assoc]
end

instance : DecidableEq Value := fun a b => decidable_of_iff (same a b = true) (same_iff a b)

/-! ## Looking inside -/

/-- The value of the field with the given name. -/
def lookup (fields : Fields) (name : String) : Option Value := fields.lookup (.str name)

/-- The value of a member of an object; a value of another kind has no members. -/
def member? (name : String) : Value → Option Value
  | .object fields => lookup fields name
  | _ => none

/-- Does the field list hold a field with the given name? -/
def hasField (fields : Fields) (name : String) : Bool := (lookup fields name).isSome

/-- The text of a string value. -/
def string? : Value → Option String
  | .str s => some s
  | _ => none

/-- Only strings have such a text. -/
theorem string?_eq_some_iff {v : Value} {s : String} : v.string? = some s ↔ v = .str s := by
  constructor
  · intro h
    unfold string? at h
    split at h
    · rw [Option.some.inj h]
    · cases h
  · rintro rfl
    rfl

/-- The fields of an object. -/
def fields? : Value → Option Fields
  | .object fields => some fields
  | _ => none

/-- The items of a list. -/
def items? : Value → Option (List Value)
  | .list items => some items
  | _ => none

/-- Is the value an object? -/
def isObject : Value → Bool
  | .object _ => true
  | _ => false

/-- Is the value a truth value? -/
def isBool : Value → Bool
  | .bool _ => true
  | _ => false

/-- Is the value null? -/
def isNull : Value → Bool
  | .null => true
  | _ => false

/-- Everything counts as true except null, false, the zeros, and empty texts, lists and objects. -/
def truthy : Value → Bool
  | .null => false
  | .bool b => b
  | .int n => n != 0
  | .float x => !x.isZero
  | .str s => !s.isEmpty
  | .scalar (.bytes data) => !data.isEmpty
  | .scalar _ => true
  | .list items => !items.isEmpty
  | .object fields => !fields.isEmpty

/-- An optional value is truthy when it is there and truthy. -/
def truthy? (v : Option Value) : Bool := v.any truthy

/-! ## Size -/

mutual
/-- The number of scalars, lists and objects in a value, itself included. -/
def nodes : Value → Nat
  | .scalar _ => 1
  | .list items => nodesItems items + 1
  | .object fields => nodesFields fields + 1

/-- The nodes in the items of a list. -/
def nodesItems : List Value → Nat
  | [] => 0
  | v :: rest => nodes v + nodesItems rest

/-- The nodes in the fields of an object; a key is none. -/
def nodesFields : Fields → Nat
  | [] => 0
  | (_, v) :: rest => nodes v + nodesFields rest
end

/-- A value has at least one node. -/
theorem nodes_pos (v : Value) : 0 < v.nodes := by cases v <;> simp [nodes]

/-- An item of a list is smaller than the list. -/
theorem nodes_le_nodesItems {v : Value} {items : List Value} (h : v ∈ items) :
    v.nodes ≤ nodesItems items := by
  induction items with
  | nil => cases h
  | cons w rest ih =>
    simp only [nodesItems]
    cases h with
    | head => omega
    | tail _ h => have := ih h; omega

/-- A field of an object is smaller than the object. -/
theorem nodes_le_nodesFields {k : Scalar} {v : Value} {fields : Fields} (h : (k, v) ∈ fields) :
    v.nodes ≤ nodesFields fields := by
  induction fields with
  | nil => cases h
  | cons f rest ih =>
    obtain ⟨l, w⟩ := f
    simp only [nodesFields]
    cases h with
    | head => omega
    | tail _ h => have := ih h; omega

end Value

end ApiContract
