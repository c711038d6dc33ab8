/-!
# Directions

A schema is checked on what a client sends or on what a server answers. A property can be visible in
one direction only: a read-only property belongs to responses, a write-only property to requests.
-/

namespace ApiContract

/-- The direction in which a value travels. -/
inductive Direction
  | request
  | response
  deriving DecidableEq, Repr

namespace Direction

/-- The direction in lower case. -/
def name : Direction → String
  | .request => "request"
  | .response => "response"

/-- The direction as the first word of a sentence. -/
def title : Direction → String
  | .request => "Request"
  | .response => "Response"

/-- The other direction. -/
def opposite : Direction → Direction
  | .request => .response
  | .response => .request

@[simp] theorem opposite_opposite (d : Direction) : d.opposite.opposite = d := by cases d <;> rfl

end Direction

/-- The two keywords that restrict a property to one direction. -/
inductive Visibility
  | readOnly
  | writeOnly
  deriving DecidableEq, Repr

namespace Visibility

/-- The keyword in a schema. -/
def keyword : Visibility → String
  | .readOnly => "readOnly"
  | .writeOnly => "writeOnly"

/-- The word for it in a message. -/
def label : Visibility → String
  | .readOnly => "read-only"
  | .writeOnly => "write-only"

/-- The direction in which a property so marked may occur. -/
def allowedIn : Visibility → Direction
  | .readOnly => .response
  | .writeOnly => .request

/-- The keyword that hides a property in a direction. -/
def hiddenIn : Direction → Visibility
  | .request => .readOnly
  | .response => .writeOnly

/-- The other keyword. -/
def opposite : Visibility → Visibility
  | .readOnly => .writeOnly
  | .writeOnly => .readOnly

/-- A marked property is hidden in exactly the direction in which it is not allowed. -/
theorem eq_hiddenIn_iff (v : Visibility) (d : Direction) : v = hiddenIn d ↔ v.allowedIn ≠ d := by
  cases v <;> cases d <;> simp [hiddenIn, allowedIn]

end Visibility

end ApiContract
