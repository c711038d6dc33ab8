/-!
# Dialects

A schema is written in the dialect of its document's OpenAPI version: documents of version 3.1 use
the later dialect, all others the earlier one.
-/

namespace ApiContract

/-- The two dialects of schemas. -/
inductive Dialect
  | v30
  | v31
  deriving DecidableEq, Repr

namespace Dialect

/-- The dialect for the version text of a document. -/
def ofVersion : Option String → Dialect
  | some version => if version.startsWith "3.1" then v31 else v30
  | none => v30

end Dialect

end ApiContract
