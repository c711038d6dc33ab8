import ApiContract.Direction
import ApiContract.Value.Display
import ApiContract.Value.Number

/-!
# Violations

A violation says where in a value a schema is not kept and why. The reason is data; `Cause.message`
is its wording. A suggestion is the written form of a violation, and suggestions are listed in the
order of their path and message.
-/

namespace ApiContract

/-- One step from a value to a part of it. -/
inductive Step
  | member (name : String)
  | index (i : Nat)
  deriving DecidableEq, Repr

/-- The text of a step in a path. -/
def Step.text : Step → String
  | .member name => name
  | .index i => toString i

/-- Which way a number, a length or a count misses its bound. -/
inductive Bound
  | least
  | greatest
  deriving DecidableEq, Repr

/-- Why a value violates a schema. -/
inductive Cause
  /-- A reason given as text. -/
  | note (text : String)
  /-- A schema has a keyword that strict mode does not know. -/
  | unknownKeyword (name pointer : String)
  /-- A schema has a format that strict mode does not know. -/
  | unknownFormat (name pointer : String)
  /-- The schema `false` refuses every value. -/
  | refused (value : Value)
  /-- A property is there that is hidden in this direction. -/
  | hidden (visibility : Visibility) (direction : Direction)
  /-- A required property is missing. -/
  | missing (name : Value)
  | notNullable
  | wrongType (value : Value) (types : List Value)
  /-- A number is beyond its bound; with `orEqual` the bound itself is not allowed either. -/
  | beyond (bound : Bound) (orEqual : Bool) (value limit : Value)
  | notMultiple (value divisor : Value)
  | stringSize (bound : Bound) (value limit : Value)
  | listSize (bound : Bound) (value limit : Value)
  | objectSize (bound : Bound) (value limit : Value)
  | noMatch (value pattern : Value)
  | notUnique (value : Value)
  | notListed (value allowed : Value)
  | notConstant (expected : Value)
  | notOfFormat (value format : Value)
  | noBranch (value : Value)
  | manyBranches (value : Value) (schemas : List Value)
  | excluded (value schema : Value)
  /-- A value has a type that is not allowed. -/
  | disallowed (value type : Value)
  /-- A list is longer than its positional schemas allow. -/
  | extraItems (positions : Nat) (extra : List Value)
  | additionalItems (items : List Value)
  | extraProperties (names : List String)
  /-- Properties match none of the patterns that would allow them. -/
  | unmatchedProperties (names : List String) (patterns : List Value)
  | notContained (value : Value)
  | noneContained (value : Value)
  | tooFewContained (least : Value) (found : Nat)
  | tooManyContained (greatest : Value)
  | missingDependency (name : Value) (property : Value)
  | unevaluatedItems (items : List Value)
  | unevaluatedProperties (names : List String)
  | invalidUnevaluatedProperties (names : List String)
  deriving DecidableEq

namespace Cause

/-- Values as they stand in a message, between commas. -/
def listed (values : List Value) : String := ", ".intercalate (values.map Value.display)

/-- Names as they stand in a message, between commas. -/
def listedNames (names : List String) : String := ", ".intercalate (names.map Text.quoted)

/-- The form of the verb that agrees with a number of things. -/
def agree (count : Nat) (one many : String) : String := if count = 1 then one else many

/-- How a size misses its bound. An exact bound of one, or of none, has words of its own. -/
def sizeText (bound : Bound) (limit : Value) (less more : String) : String :=
  match bound with
  | .least => if limit.worth 1 then "should be non-empty" else less
  | .greatest => if limit.worth 0 then "is expected to be empty" else more

/-- The wording of a cause. -/
def message : Cause → String
  | note text => text
  | unknownKeyword name pointer => "unknown keyword " ++ Text.quoted name ++ " at " ++ pointer
  | unknownFormat name pointer => "unknown format " ++ Text.quoted name ++ " at " ++ pointer
  | refused value => "False schema does not allow " ++ value.display
  | hidden visibility direction =>
    visibility.label ++ " property is not allowed in a " ++ direction.name
  | missing name => name.display ++ " is a required property"
  | notNullable => "None for not nullable"
  | wrongType value types => value.display ++ " is not of type " ++ listed types
  | beyond .least orEqual value limit =>
    value.display ++ " is less than " ++ (if orEqual then "or equal to " else "") ++
      "the minimum of " ++ limit.display
  | beyond .greatest orEqual value limit =>
    value.display ++ " is greater than " ++ (if orEqual then "or equal to " else "") ++
      "the maximum of " ++ limit.display
  | notMultiple value divisor => value.display ++ " is not a multiple of " ++ divisor.display
  | stringSize bound value limit | listSize bound value limit =>
    value.display ++ " " ++ sizeText bound limit "is too short" "is too long"
  | objectSize bound value limit =>
    value.display ++ " " ++
      sizeText bound limit "does not have enough properties" "has too many properties"
  | noMatch value pattern => value.display ++ " does not match " ++ pattern.display
  | notUnique value => value.display ++ " has non-unique elements"
  | notListed value allowed => value.display ++ " is not one of " ++ allowed.display
  | notConstant expected => expected.display ++ " was expected"
  | notOfFormat value format => value.display ++ " is not a " ++ format.display
  | noBranch value => value.display ++ " is not valid under any of the given schemas"
  | manyBranches value schemas => value.display ++ " is valid under each of " ++ listed schemas
  | excluded value schema => value.display ++ " should not be valid under " ++ schema.display
  | disallowed value type => type.display ++ " is disallowed for " ++ value.display
  | extraItems positions extra =>
    "Expected at most " ++ toString positions ++ " " ++ agree positions "item" "items" ++
      " but found " ++ toString extra.length ++ " extra: " ++
      (match extra with | [v] => v.display | vs => (Value.list vs).display)
  | additionalItems items =>
    "Additional items are not allowed (" ++ listed items ++ " " ++
      agree items.length "was" "were" ++ " unexpected)"
  | extraProperties names =>
    "Additional properties are not allowed (" ++ listedNames names ++ " " ++
      agree names.length "was" "were" ++ " unexpected)"
  | unmatchedProperties names patterns =>
    listedNames names ++ " " ++ agree names.length "does" "do" ++
      " not match any of the regexes: " ++ listed patterns
  | notContained value => value.display ++ " does not contain items matching the given schema"
  | noneContained value => "None of " ++ value.display ++ " are valid under the given schema"
  | tooFewContained least found =>
    "Too few items match the given schema (expected at least " ++ least.text ++ " but only " ++
      toString found ++ " matched)"
  | tooManyContained greatest =>
    "Too many items match the given schema (expected at most " ++ greatest.text ++ ")"
  | missingDependency name property => name.display ++ " is a dependency of " ++ property.display
  | unevaluatedItems items =>
    "Unevaluated items are not allowed (" ++ listed items ++ " " ++
      agree items.length "was" "were" ++ " unexpected)"
  | unevaluatedProperties names =>
    "Unevaluated properties are not allowed (" ++ listedNames names ++ " " ++
      agree names.length "was" "were" ++ " unexpected)"
  | invalidUnevaluatedProperties names =>
    "Unevaluated properties are not valid under the given schema (" ++ listedNames names ++ " " ++
      agree names.length "was" "were" ++ " unevaluated and invalid)"

end Cause

/-- A place in a value, as the steps from its root, and the reason why a schema is not kept there. -/
structure Violation where
  path : List Step
  cause : Cause
  deriving DecidableEq

namespace Violation

/-- A violation at the root. -/
def here (cause : Cause) : Violation := ⟨[], cause⟩

/-- The same violation seen from a value one step further out. -/
def under (step : Step) (v : Violation) : Violation := { v with path := step :: v.path }

/-- The wording of a violation. -/
def message (v : Violation) : String := v.cause.message

end Violation

/-- A path as text: each step behind a slash, the root as the empty text. -/
def pathText (path : List Step) : String := String.join (path.map fun s => "/" ++ s.text)

/-- The written form of a violation. -/
structure Suggestion where
  path : String
  message : String
  deriving DecidableEq, Repr

namespace Suggestion

/-- The written form of a violation. -/
def ofViolation (v : Violation) : Suggestion := ⟨pathText v.path, v.message⟩

/-- Suggestions are ordered by path, those of one path by message, both by code point. -/
def le (a b : Suggestion) : Bool := a.path < b.path || (a.path == b.path && a.message ≤ b.message)

/-- The suggestions of a list of violations, in order. -/
def ofViolations (vs : List Violation) : List Suggestion := (vs.map ofViolation).mergeSort le

end Suggestion

end ApiContract
