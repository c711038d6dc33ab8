import ApiContract.Text.Blank
import ApiContract.Text.Case
import ApiContract.Value.Display

/-!
# Response statuses

A status is compared as trimmed text in upper case, so that a number and its text are the same status
and ranges such as `4XX` may be written in lower case. The word `default` stands for all statuses
without a response of their own.
-/

namespace ApiContract.Status

/-- The key of the response for all other statuses. -/
def default : String := "default"

/-- The form in which the text of a status is compared. -/
def normalizeText (s : String) : String :=
  let trimmed := Text.trim s
  if Text.lower trimmed = default then default else Text.upper trimmed

/-- The form in which a status is compared. -/
def normalize (status : Value) : String := normalizeText status.text

/-- The key of the range that a normalized status belongs to. -/
def range (status : String) : String := String.ofList (status.toList.take 1) ++ "XX"

/-- The keys under which a response to a normalized status is looked for, in order. -/
def candidates (status : String) : List String := [status, range status, default]

end ApiContract.Status
