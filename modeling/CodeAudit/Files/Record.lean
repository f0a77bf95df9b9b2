import CodeAudit.Finding.Record

/-!
# Files of a project

A `FileRecord` is what an audit knows of a file before it reads it.  Reading is given to the audit
as a function: a file that cannot be read as text has no content.
-/

namespace CodeAudit

open Json

/-- A file that an audit looks at. -/
structure FileRecord where
  path : String
  /-- The path below the project, with `/` between its parts. -/
  relativePath : String
  size : Nat
  extension : Option String
  language : Option String
  deriving DecidableEq, Inhabited

namespace FileRecord

/-- The JSON value of a file. -/
def toValue (file : FileRecord) : Value :=
  .object
    [("path", .text file.path), ("relative_path", .text file.relativePath),
     ("size", .ofCount file.size), ("extension", textValue? file.extension),
     ("language", textValue? file.language)]

end FileRecord

/-- The content of a file, if it can be read as text. -/
abbrev ReadFile := FileRecord → Option String

end CodeAudit
