import ApiContract.Failure.ContractError
import ApiContract.Text.Blank
import ApiContract.Text.Case

/-!
# Media types

A media type is compared without its parameters, without blanks around it and in lower case.
-/

namespace ApiContract.MediaType

/-- The pattern that matches every media type. -/
def wildcard : String := "*/*"

/-- The characters before the first separator. -/
def before (separator : Char) (s : String) : String :=
  String.ofList (s.toList.takeWhile (· != separator))

/-- The form in which media types are compared. -/
def normalize (s : String) : String := Text.lower (Text.trim (before ';' s))

/-- The pattern that matches all media types with the same main type. -/
def mainPattern (normalized : String) : String := before '/' normalized ++ "/*"

/-- The media type that a header's value stands for: of a list the first item. -/
def ofHeaderValue : Value → Option String
  | .list [] => none
  | .list (v :: _) => if v.isNull then none else some v.text
  | v => if v.isNull then none else some v.text

/-- Is the key the name of the content type, in any case? -/
def isContentType (key : Scalar) : Bool := Text.lower (Value.scalarText key) == "content-type"

/-- The content type among headers; a falsy value has none. -/
def ofHeaders (headers : Value) : Except Failure (Option String) :=
  match headers with
  | .object fields => .ok ((fields.find? fun f => isContentType f.1).bind fun f => ofHeaderValue f.2)
  | v => if v.truthy then stop .wrongShape else .ok none

end ApiContract.MediaType
