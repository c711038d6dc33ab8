import ApiContract.Value.Basic

/-!
# Merging parameters

A path declares parameters for all of its operations, and each operation declares its own. The
operation wins where both declare one with the same name at the same location.
-/

namespace ApiContract.Parameter

/-- What identifies a parameter; the order is by location, then by name, by code point. -/
structure Key where
  location : String
  name : String
  deriving DecidableEq, Repr

/-- The order of keys. -/
def Key.le (a b : Key) : Bool := a.location < b.location || (a.location == b.location && a.name ≤ b.name)

/-- The key of a parameter object with a name and a location. -/
def keyOf? (parameter : Value) : Option Key :=
  match parameter.member? "name", parameter.member? "in" with
  | some (.str name), some (.str location) => some ⟨location, name⟩
  | _, _ => none

/-- The parameters in a list, with their keys; whatever else there is does not count. -/
def keyed (declared : Value) : List (Key × Value) :=
  match declared with
  | .list items => items.filterMap fun p => (keyOf? p).map (·, p)
  | _ => []

/-- One parameter for each key, the last that has it. -/
def lastOfEach : List (Key × Value) → List (Key × Value)
  | [] => []
  | (k, p) :: rest =>
    if rest.any (·.1 == k) then lastOfEach rest else (k, p) :: lastOfEach rest

/-- The parameters of an operation together with those of its path, in the order of their keys. -/
def merge (ofPath ofOperation : Value) : List Value :=
  ((lastOfEach (keyed ofPath ++ keyed ofOperation)).mergeSort fun a b => a.1.le b.1).map (·.2)

end ApiContract.Parameter
