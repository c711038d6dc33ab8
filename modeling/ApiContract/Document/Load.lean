import ApiContract.Failure.ContractError
import ApiContract.Json.Reader
import ApiContract.Text.Case
import ApiContract.Yaml.Content

/-!
# Loading documents

A file whose name ends in `.json`, in any case, is read as JSON, every other file as YAML. A document
has to be an object.
-/

namespace ApiContract.Document

/-- Is the file read as JSON? -/
def isJsonName (name : String) : Bool := (Text.lower name).endsWith ".json"

/-- Line ends of any kind as line feeds. -/
def lineFeeds : List Char → List Char
  | '\r' :: '\n' :: rest => '\n' :: lineFeeds rest
  | '\r' :: rest => '\n' :: lineFeeds rest
  | c :: rest => c :: lineFeeds rest
  | [] => []

/-- The value that the text of a file stands for. -/
def readText (name text : String) : Except Failure Value :=
  let text := String.ofList (lineFeeds text.toList)
  if isJsonName name then
    match Json.read? text with
    | some v => .ok v
    | none => stop .malformedJson
  else
    match Yaml.read text with
    | .ok v => .ok v
    | .error f => stop f

/-- The document in a file with the given name; without text there is no file. -/
def load (name : String) (text : Option String) : Except Failure Value :=
  match text with
  | none => stop .missingFile
  | some text => do
    let v ← readText name text
    if v.isObject then return v else throw (.contract (.fileNotObject name))

end ApiContract.Document
