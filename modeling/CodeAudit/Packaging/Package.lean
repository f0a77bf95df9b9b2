import CodeAudit.Json.Reader

/-!
# A packaged codebase

For questions about a whole project the codebase is bundled into one text, by an external program
or by the built-in packager, and cut to a budget.
-/

namespace CodeAudit

open Json

/-- Who bundled a codebase. -/
inductive PackagingMethod where
  | external
  | manual
  deriving DecidableEq, Inhabited

namespace PackagingMethod

/-- The name inside a record. -/
def tag : PackagingMethod → String
  | external => "external"
  | manual => "manual"

/-- The method with exactly this name inside a record. -/
def tagged? (tag : String) : Option PackagingMethod :=
  [external, manual].find? fun method => method.tag == tag

/-- The JSON value of a method. -/
def toValue (method : PackagingMethod) : Value := .text method.tag

/-- Reads the name of a method. -/
def reader : Reader := Reader.label ([external, manual].map tag)

/-- The method of a value. -/
def ofValue? (value : Value) : Option PackagingMethod := value.asText?.bind tagged?

end PackagingMethod

/-- A codebase as one text, and whether a part of it was cut off. -/
structure Package where
  content : String
  method : PackagingMethod
  truncated : Bool
  deriving DecidableEq, Inhabited

/-- The codebase as it stands in a prompt. -/
def Package.shown (package : Package) : String :=
  package.content ++ (if package.truncated then "\n[... codebase truncated ...]\n" else "")

end CodeAudit
