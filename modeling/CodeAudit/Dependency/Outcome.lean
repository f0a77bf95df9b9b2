import CodeAudit.Finding.Record

/-!
# The outcome of a dependency scan

A scan tries one launcher after another.  Its outcome names the launcher that succeeded, the
vulnerabilities it found, and one message for each launcher that failed before.
-/

namespace CodeAudit

open Json

/-- What a dependency scan found. -/
structure DependencyOutcome where
  tool : Option String
  vulnerabilities : List Vulnerability
  errors : List String
  deriving DecidableEq, Inhabited

namespace DependencyOutcome

/-- No launcher has been tried. -/
def empty : DependencyOutcome := ⟨none, [], []⟩

/-- The JSON value of an outcome. -/
def toValue (outcome : DependencyOutcome) : Value :=
  .object
    [("tool", textValue? outcome.tool),
     ("vulnerabilities", .list (outcome.vulnerabilities.map Vulnerability.toValue)),
     ("errors", .ofTexts outcome.errors)]

/-- Reads an outcome. -/
def reader : Reader :=
  Reader.record "DependencyScanOutcome"
    [.possible "tool" Reader.text, .required "vulnerabilities" (Reader.list Vulnerability.reader),
     .required "errors" (Reader.list Reader.text)]

/-- The outcome of a value. -/
def ofValue? (value : Value) : Option DependencyOutcome := do
  return {
    tool := ← value.field? "tool" (Value.asOption? Value.asText?)
    vulnerabilities :=
      ← value.field? "vulnerabilities" (Value.asListOf? Vulnerability.ofValue?)
    errors := ← value.field? "errors" (Value.asListOf? Value.asText?) }

end DependencyOutcome

end CodeAudit
