import CodeAudit.Finding.Record
import CodeAudit.Report.RunId

/-!
# What a report says of its run

Every report begins with the run it comes from: its identifier, the command, the project, the time,
the version of the program and the model that was asked, if there was one.
-/

namespace CodeAudit

open Json

/-- The run that a report comes from. -/
structure Metadata where
  runId : RunId
  command : String
  target : String
  generatedAt : String
  toolVersion : String
  model : Option String
  deriving DecidableEq, Inhabited

/-- The version of the program. -/
def toolVersion : String := "0.1.0"

namespace Metadata

/-- The JSON value of the metadata. -/
def toValue (m : Metadata) : Value :=
  .object
    [("run_id", m.runId.toValue), ("command", .text m.command), ("target", .text m.target),
     ("generated_at", .text m.generatedAt), ("tool_version", .text m.toolVersion),
     ("llm", textValue? m.model)]

/-- Reads metadata. -/
def reader : Reader :=
  Reader.record "ReportMetadata"
    [.required "run_id" RunId.reader, .required "command" Reader.text,
     .required "target" Reader.text, .required "generated_at" Reader.text,
     .required "tool_version" Reader.text, .possible "llm" Reader.text]

/-- The metadata of a value. -/
def ofValue? (value : Value) : Option Metadata := do
  return {
    runId := ← value.field? "run_id" RunId.ofValue?
    command := ← value.field? "command" Value.asText?
    target := ← value.field? "target" Value.asText?
    generatedAt := ← value.field? "generated_at" Value.asText?
    toolVersion := ← value.field? "tool_version" Value.asText?
    model := ← value.field? "llm" (Value.asOption? Value.asText?) }

end Metadata

end CodeAudit
