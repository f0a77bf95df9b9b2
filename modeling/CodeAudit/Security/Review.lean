import CodeAudit.Files.Record
import CodeAudit.Finding.Record
import CodeAudit.Model.Answer
import CodeAudit.Model.Client
import CodeAudit.Security.Heuristic

/-!
# Reviews by a model

A file in one of the reviewed languages is shown to the model, with its lines numbered and with the
heuristic findings that were already made.  The answer is a `Review`; its findings become
vulnerabilities of the file.
-/

namespace CodeAudit
namespace Security

open Json

/-- The languages that are worth a review. -/
def reviewedLanguages : List String :=
  ["java", "kotlin", "scala", "groovy", "python", "javascript", "typescript", "go", "rust",
   "csharp", "php", "ruby", "c", "cpp", "jsp", "bash", "sql"]

/-- Whether a file is worth a review. -/
def isReviewed (file : FileRecord) : Bool := file.language.any reviewedLanguages.contains

/-- A finding as the model words it. -/
structure ReviewFinding where
  kind : String
  severity : String
  line : Option Nat
  description : String
  recommendation : Option String
  score : Option Floating
  deriving DecidableEq, Inhabited

/-- The answer of the model about a file. -/
structure Review where
  findings : List ReviewFinding
  riskScore : Option Floating
  summary : Option String
  deriving DecidableEq, Inhabited

namespace ReviewFinding

/-- Reads a finding. -/
def reader : Reader :=
  Reader.record "LlmVulnerability"
    [⟨["type", "vuln_type"], .default (.text ""), Reader.text⟩,
     .defaulted "severity" (.text "") Reader.text,
     ⟨["line_number", "line"], .default .null, Reader.optional (Reader.count 64)⟩,
     .defaulted "description" (.text "") Reader.text,
     .defaulted "recommendation" .null (Reader.optional Reader.text),
     .defaulted "score" .null (Reader.optional Reader.real)]

/-- The finding of a value. -/
def ofValue? (value : Value) : Option ReviewFinding := do
  return {
    kind := ← value.field? "type" Value.asText?
    severity := ← value.field? "severity" Value.asText?
    line := ← value.field? "line_number" (Value.asOption? Value.asCount?)
    description := ← value.field? "description" Value.asText?
    recommendation := ← value.field? "recommendation" (Value.asOption? Value.asText?)
    score := ← value.field? "score" (Value.asOption? Value.asReal?) }

/-- The vulnerability of a file that a finding stands for: a score decides over a label. -/
def toVulnerability (finding : ReviewFinding) (path : String) : Vulnerability where
  kind := if Text.isBlankText finding.kind then "Unspecified" else finding.kind
  severity :=
    match finding.score with
    | some score => .ofScore score
    | none => .ofLabel finding.severity
  line := finding.line
  description := finding.description
  recommendation := finding.recommendation
  file := path
  source := .model
  cve := none
  score := finding.score

end ReviewFinding

namespace Review

/-- Reads a review. -/
def reader : Reader :=
  Reader.record "LlmSecurityReview"
    [.defaulted "vulnerabilities" (.list []) (Reader.list ReviewFinding.reader),
     .defaulted "risk_score" .null (Reader.optional Reader.real),
     .defaulted "summary" .null (Reader.optional Reader.text)]

/-- The review of a value. -/
def ofValue? (value : Value) : Option Review := do
  return {
    findings := ← value.field? "vulnerabilities" (Value.asListOf? ReviewFinding.ofValue?)
    riskScore := ← value.field? "risk_score" (Value.asOption? Value.asReal?)
    summary := ← value.field? "summary" (Value.asOption? Value.asText?) }

/-- The review in an answer. -/
def ofAnswer? (answer : String) : Option Review := Answer.read? reader ofValue? answer

end Review

/-- The role of the model in a review. -/
def reviewRole : String :=
  "You are an application security reviewer. Examine the given source file for security vulnerabilities. Respond with strict JSON only: \x7b\"vulnerabilities\": [\x7b\"type\": \"...\", \"severity\": \"Critical|High|Medium|Low\", \"line\": 12, \"description\": \"...\", \"recommendation\": \"...\", \"score\": 7.5\x7d], \"risk_score\": 0-10, \"summary\": \"one sentence\"\x7d. Use an empty list when the file looks safe."

/-- Lines with their numbers, from `number` on. -/
def numberedLines (number : Nat) : List String → String
  | [] => ""
  | line :: rest =>
    Text.alignRight 5 (toString number) ++ " | " ++ line ++ "\n" ++ numberedLines (number + 1) rest

/-- The findings that were already made, one a line. -/
def flaggedLines : List Vulnerability → String
  | [] => ""
  | finding :: rest =>
    "- line " ++ toString (finding.line.getD 0) ++ ": " ++ finding.kind ++ "\n"
      ++ flaggedLines rest

/-- The question about a file: at most `limit` characters of it are shown. -/
def reviewQuestion (file : FileRecord) (content : String) (flagged : List Vulnerability)
    (limit : Nat) : String :=
  let shown := Text.cut content limit
  "File: " ++ file.relativePath ++ "\nLanguage: " ++ file.language.getD "unknown" ++ "\n"
    ++ (if flagged.isEmpty then ""
        else "\nPattern matches already flagged (confirm or add to them):\n" ++ flaggedLines flagged)
    ++ "\nSource:\n" ++ numberedLines 1 (Text.lines shown)
    ++ (if shown.utf8ByteSize < content.utf8ByteSize then "[... file truncated ...]\n" else "")

/-- The prompt about a file. -/
def reviewPrompt (file : FileRecord) (content : String) (flagged : List Vulnerability)
    (limit : Nat) : Prompt :=
  ⟨reviewRole, reviewQuestion file content flagged limit⟩

end Security
end CodeAudit
