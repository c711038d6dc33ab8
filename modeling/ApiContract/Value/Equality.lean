import ApiContract.Value.Number

/-!
# Equality of values

Two notions of equality leave the order of object fields aside. `equal` is that of a schema: a truth
value equals only itself, numbers are equal in exact value. `loosely` also lets a truth value equal
the number it is worth; it decides which list items an ordering comparison skips.
-/

namespace ApiContract

namespace Value

/-- The value of the first field under the same key. -/
def valueAt? (key : Scalar) (fields : Fields) : Option Value :=
  (fields.find? fun f => key.sameKey f.1).map (·.2)

/-- Equality of scalars in a schema: truth values equal truth values only. -/
def equalScalar : Scalar → Scalar → Bool
  | .bool a, .bool b => a == b
  | .bool _, _ => false
  | _, .bool _ => false
  | a, b => a.sameKey b

mutual
/-- Equality of values in a schema. -/
def equal : Value → Value → Bool
  | .scalar a, .scalar b => equalScalar a b
  | .list xs, .list ys => equalItems xs ys
  | .object fs, .object gs => fs.length == gs.length && equalFields fs gs
  | _, _ => false

/-- Equality of lists, item by item. -/
def equalItems : List Value → List Value → Bool
  | [], [] => true
  | x :: xs, y :: ys => equal x y && equalItems xs ys
  | _, _ => false

/-- Does each field have an equal one under its key on the other side? -/
def equalFields : Fields → Fields → Bool
  | [], _ => true
  | (k, x) :: fs, gs =>
    (match valueAt? k gs with
      | some y => equal x y
      | none => false) && equalFields fs gs
end

mutual
/-- Equality of values that lets a truth value equal the number it is worth. -/
def loosely : Value → Value → Bool
  | .scalar a, .scalar b => a.sameKey b
  | .list xs, .list ys => looselyItems xs ys
  | .object fs, .object gs => fs.length == gs.length && looselyFields fs gs
  | _, _ => false

/-- The same for lists, item by item. -/
def looselyItems : List Value → List Value → Bool
  | [], [] => true
  | x :: xs, y :: ys => loosely x y && looselyItems xs ys
  | _, _ => false

/-- The same for objects, field by field. -/
def looselyFields : Fields → Fields → Bool
  | [], _ => true
  | (k, x) :: fs, gs =>
    (match valueAt? k gs with
      | some y => loosely x y
      | none => false) && looselyFields fs gs
end

end Value

end ApiContract
