import CodeAudit.Files.Path
import CodeAudit.Text.Case

/-!
# The language of a file

A file without an extension is recognised by its name, any other file by its extension.
-/

namespace CodeAudit
namespace Language

/-- Names of files that matter whatever the extensions are. -/
def wellKnownNames : List String :=
  ["dockerfile", "containerfile", "procfile", "makefile", "jenkinsfile"]

/-- The language of a well-known name. -/
def ofName? : (lowered : String) → Option String
  | "dockerfile" | "containerfile" => some "dockerfile"
  | "makefile" => some "makefile"
  | "procfile" | "jenkinsfile" => some "text"
  | _ => none

/-- The language of an extension. -/
def ofExtension? : (extension : String) → Option String
  | "java" => some "java"
  | "kt" | "kts" => some "kotlin"
  | "scala" => some "scala"
  | "groovy" | "gradle" => some "groovy"
  | "rs" => some "rust"
  | "js" | "jsx" | "mjs" | "cjs" => some "javascript"
  | "ts" | "tsx" => some "typescript"
  | "py" => some "python"
  | "go" => some "go"
  | "cpp" | "cc" | "cxx" | "hpp" => some "cpp"
  | "c" | "h" => some "c"
  | "php" => some "php"
  | "rb" => some "ruby"
  | "cs" => some "csharp"
  | "jsp" | "jspx" => some "jsp"
  | "sh" | "bash" => some "bash"
  | "sql" => some "sql"
  | "html" | "htm" => some "html"
  | "xml" => some "xml"
  | "json" => some "json"
  | "yaml" | "yml" => some "yaml"
  | "toml" => some "toml"
  | "properties" => some "properties"
  | "md" => some "markdown"
  | _ => none

/-- The language of a file with this path and this extension. -/
def detect (path : String) (extension : Option String) : Option String :=
  match extension with
  | some extension => ofExtension? extension
  | none => (Path.fileName? path).bind fun name => ofName? (Text.lowerCase name)

/-- Whether a file matters whatever the extensions are. -/
def isWellKnown (name : String) : Bool := wellKnownNames.contains (Text.lowerCase name)

end Language
end CodeAudit
