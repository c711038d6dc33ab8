import ApiContract.Value.Number

/-!
# Field lists

A field list is built by setting one field after the other: a key that is there already keeps its
place and takes the new value.
-/

namespace ApiContract

namespace Fields

/-- Set a field: in place when the key is there, at the end otherwise. -/
def set (key : Scalar) (value : Value) : Fields → Fields
  | [] => [(key, value)]
  | (k, v) :: rest => if k.sameKey key then (k, value) :: rest else (k, v) :: set key value rest

/-- The fields that result from setting the pairs in order. -/
def ofPairs (pairs : List (Scalar × Value)) : Fields :=
  pairs.foldl (fun fields p => set p.1 p.2 fields) []

@[simp] theorem set_nil (key : Scalar) (value : Value) : set key value [] = [(key, value)] := rfl

@[simp] theorem ofPairs_nil : ofPairs [] = [] := rfl

/-- One more pair sets one more field. -/
theorem ofPairs_concat (pairs : List (Scalar × Value)) (p : Scalar × Value) :
    ofPairs (pairs ++ [p]) = set p.1 p.2 (ofPairs pairs) := by
  simp [ofPairs, List.foldl_append]

/-- String keys are the same key only when they are equal. -/
@[simp] theorem sameKey_str (s t : String) : Scalar.sameKey (.str s) (.str t) = (s == t) := by
  rw [Bool.eq_iff_iff]
  simp [Scalar.sameKey, Scalar.number?]

end Fields

end ApiContract
