import CodeAudit.Finding.Basic
import CodeAudit.Json.Reader

/-!
# Findings as JSON records

Every record type of an audit has three definitions: `toValue` gives its JSON value, `reader` says
which JSON text stands for a record, and `ofValue?` takes the value that the reader yields back to
the record.
-/

namespace CodeAudit

open Json

namespace Json.Value

/-- A member that has to be there, decoded. -/
def field? {α : Type} (value : Value) (name : String) (decode : Value → Option α) : Option α :=
  (value.member? name).bind decode

end Json.Value

/-- The JSON value of a count that may be missing. -/
def countValue? (count : Option Nat) : Value := Value.ofOption .ofCount count

/-- The JSON value of a text that may be missing. -/
def textValue? (text : Option String) : Value := Value.ofOption .text text

/-- The JSON value of a number that may be missing. -/
def realValue? (number : Option Floating) : Value := Value.ofOption .real number

namespace Severity

/-- The JSON value of a severity. -/
def toValue (severity : Severity) : Value := .text severity.label

/-- Reads the name of a severity. -/
def reader : Reader := Reader.label (worstFirst.map label)

/-- The severity of a value. -/
def ofValue? (value : Value) : Option Severity := value.asText?.bind named?

end Severity

namespace Priority

/-- The JSON value of a priority. -/
def toValue (priority : Priority) : Value := .text priority.label

/-- Reads the name of a priority. -/
def reader : Reader := Reader.label (urgentFirst.map label)

/-- The priority of a value. -/
def ofValue? (value : Value) : Option Priority := value.asText?.bind named?

end Priority

namespace Source

/-- The JSON value of a source. -/
def toValue (source : Source) : Value := .text source.tag

/-- Reads the name of a source. -/
def reader : Reader := Reader.label ([heuristic, model, dependencyScanner].map tag)

/-- The source of a value. -/
def ofValue? (value : Value) : Option Source := value.asText?.bind tagged?

end Source

namespace Vulnerability

/-- The JSON value of a vulnerability. -/
def toValue (v : Vulnerability) : Value :=
  .object
    [("vuln_type", .text v.kind), ("severity", v.severity.toValue),
     ("line_number", countValue? v.line), ("description", .text v.description),
     ("recommendation", textValue? v.recommendation), ("file", .text v.file),
     ("source", v.source.toValue), ("cve", textValue? v.cve), ("score", realValue? v.score)]

/-- Reads a vulnerability. -/
def reader : Reader :=
  Reader.record "Vulnerability"
    [.required "vuln_type" Reader.text, .required "severity" Severity.reader,
     .possible "line_number" (Reader.count 64), .required "description" Reader.text,
     .possible "recommendation" Reader.text, .required "file" Reader.text,
     .required "source" Source.reader, .possible "cve" Reader.text, .possible "score" Reader.real]

/-- The vulnerability of a value. -/
def ofValue? (value : Value) : Option Vulnerability := do
  return {
    kind := ← value.field? "vuln_type" Value.asText?
    severity := ← value.field? "severity" Severity.ofValue?
    line := ← value.field? "line_number" (Value.asOption? Value.asCount?)
    description := ← value.field? "description" Value.asText?
    recommendation := ← value.field? "recommendation" (Value.asOption? Value.asText?)
    file := ← value.field? "file" Value.asText?
    source := ← value.field? "source" Source.ofValue?
    cve := ← value.field? "cve" (Value.asOption? Value.asText?)
    score := ← value.field? "score" (Value.asOption? Value.asReal?) }

end Vulnerability

namespace CloudIssue

/-- The JSON value of an issue. -/
def toValue (issue : CloudIssue) : Value :=
  .object
    [("category", .text issue.category), ("severity", issue.severity.toValue),
     ("description", .text issue.description), ("recommendation", .text issue.recommendation),
     ("file", textValue? issue.file), ("line_number", countValue? issue.line)]

/-- Reads an issue. -/
def reader : Reader :=
  Reader.record "CloudIssue"
    [.required "category" Reader.text, .required "severity" Severity.reader,
     .required "description" Reader.text, .required "recommendation" Reader.text,
     .possible "file" Reader.text, .possible "line_number" (Reader.count 64)]

/-- The issue of a value. -/
def ofValue? (value : Value) : Option CloudIssue := do
  return {
    category := ← value.field? "category" Value.asText?
    severity := ← value.field? "severity" Severity.ofValue?
    description := ← value.field? "description" Value.asText?
    recommendation := ← value.field? "recommendation" Value.asText?
    file := ← value.field? "file" (Value.asOption? Value.asText?)
    line := ← value.field? "line_number" (Value.asOption? Value.asCount?) }

end CloudIssue

namespace MigrationStep

/-- The JSON value of a step. -/
def toValue (step : MigrationStep) : Value :=
  .object
    [("title", .text step.title), ("description", .text step.description),
     ("priority", step.priority.toValue), ("category", .text step.category),
     ("effort", .text step.effort)]

/-- Reads a step. -/
def reader : Reader :=
  Reader.record "MigrationStep"
    [.required "title" Reader.text, .required "description" Reader.text,
     .required "priority" Priority.reader, .required "category" Reader.text, .required "effort" Reader.text]

/-- The step of a value. -/
def ofValue? (value : Value) : Option MigrationStep := do
  return {
    title := ← value.field? "title" Value.asText?
    description := ← value.field? "description" Value.asText?
    priority := ← value.field? "priority" Priority.ofValue?
    category := ← value.field? "category" Value.asText?
    effort := ← value.field? "effort" Value.asText? }

end MigrationStep

namespace SeverityCounts

/-- The JSON value of the counts. -/
def toValue (counts : SeverityCounts) : Value :=
  .object
    [("critical", .ofCount counts.critical), ("high", .ofCount counts.high),
     ("medium", .ofCount counts.medium), ("low", .ofCount counts.low)]

/-- Reads counts. -/
def reader : Reader :=
  Reader.record "SeverityCounts"
    [.required "critical" (Reader.count 64), .required "high" (Reader.count 64),
     .required "medium" (Reader.count 64), .required "low" (Reader.count 64)]

/-- The counts of a value. -/
def ofValue? (value : Value) : Option SeverityCounts := do
  return {
    critical := ← value.field? "critical" Value.asCount?
    high := ← value.field? "high" Value.asCount?
    medium := ← value.field? "medium" Value.asCount?
    low := ← value.field? "low" Value.asCount? }

end SeverityCounts

end CodeAudit
