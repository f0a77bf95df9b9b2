import CodeAudit.Dependency.Outcome
import CodeAudit.Finding.Record
import CodeAudit.Report.Metadata

/-!
# The security report

The report holds one part for each file that was scanned, the outcome of the dependency scan if
there was one, and a summary that is computed from them.
-/

namespace CodeAudit

open Json

/-- What was found in one file. -/
structure FileSecurityReport where
  file : String
  language : Option String
  vulnerabilities : List Vulnerability
  heuristicScore : Floating
  modelScore : Option Floating
  riskScore : Floating
  severity : Severity
  modelSummary : Option String
  deriving DecidableEq, Inhabited

/-- The numbers at the head of a security report. -/
structure SecuritySummary where
  filesScanned : Nat
  filesSkipped : Nat
  totalFindings : Nat
  severityCounts : SeverityCounts
  overallRiskScore : Floating
  highestSeverity : Option Severity
  deriving DecidableEq, Inhabited

/-- The result of a security scan. -/
structure SecurityReport where
  metadata : Metadata
  summary : SecuritySummary
  files : List FileSecurityReport
  dependencyScan : Option DependencyOutcome
  deriving DecidableEq, Inhabited

namespace FileSecurityReport

/-- The JSON value of the part of a file. -/
def toValue (report : FileSecurityReport) : Value :=
  .object
    [("file", .text report.file), ("language", textValue? report.language),
     ("vulnerabilities", .list (report.vulnerabilities.map Vulnerability.toValue)),
     ("heuristic_score", .real report.heuristicScore), ("llm_score", realValue? report.modelScore),
     ("risk_score", .real report.riskScore), ("severity", report.severity.toValue),
     ("llm_summary", textValue? report.modelSummary)]

/-- Reads the part of a file. -/
def reader : Reader :=
  Reader.record "FileSecurityReport"
    [.required "file" Reader.text, .possible "language" Reader.text,
     .required "vulnerabilities" (Reader.list Vulnerability.reader),
     .required "heuristic_score" Reader.real, .possible "llm_score" Reader.real,
     .required "risk_score" Reader.real, .required "severity" Severity.reader,
     .possible "llm_summary" Reader.text]

/-- The part of a file that a value stands for. -/
def ofValue? (value : Value) : Option FileSecurityReport := do
  return {
    file := ← value.field? "file" Value.asText?
    language := ← value.field? "language" (Value.asOption? Value.asText?)
    vulnerabilities :=
      ← value.field? "vulnerabilities" (Value.asListOf? Vulnerability.ofValue?)
    heuristicScore := ← value.field? "heuristic_score" Value.asReal?
    modelScore := ← value.field? "llm_score" (Value.asOption? Value.asReal?)
    riskScore := ← value.field? "risk_score" Value.asReal?
    severity := ← value.field? "severity" Severity.ofValue?
    modelSummary := ← value.field? "llm_summary" (Value.asOption? Value.asText?) }

end FileSecurityReport

namespace SecuritySummary

/-- The findings of all files and of the dependency scan. -/
def allFindings (files : List FileSecurityReport) (dependencyScan : Option DependencyOutcome) :
    List Vulnerability :=
  files.flatMap FileSecurityReport.vulnerabilities
    ++ (dependencyScan.map DependencyOutcome.vulnerabilities).getD []

/-- The mean of scores, which are numbers of any kind; their sum begins at `start`. -/
def mean {α : Type} [Add α] [Div α] (start : α) (count : Nat → α) (scores : List α) : α :=
  scores.foldl (· + ·) start / count scores.length

/-- The mean of the risks of the files; the sum begins at a negative zero. -/
def meanRisk (files : List FileSecurityReport) : Floating :=
  if files.isEmpty then 0
  else mean .negativeZero .ofNat (files.map FileSecurityReport.riskScore)

/-- The summary of the parts of a report. -/
def of (files : List FileSecurityReport) (skipped : Nat)
    (dependencyScan : Option DependencyOutcome) : SecuritySummary :=
  let severities := (allFindings files dependencyScan).map Vulnerability.severity
  let counts := SeverityCounts.tally severities
  { filesScanned := files.length
    filesSkipped := skipped
    totalFindings := counts.total
    severityCounts := counts
    overallRiskScore := meanRisk files
    highestSeverity := Severity.worst? severities }

/-- The JSON value of a summary. -/
def toValue (summary : SecuritySummary) : Value :=
  .object
    [("files_scanned", .ofCount summary.filesScanned),
     ("files_skipped", .ofCount summary.filesSkipped),
     ("total_findings", .ofCount summary.totalFindings),
     ("severity_counts", summary.severityCounts.toValue),
     ("overall_risk_score", .real summary.overallRiskScore),
     ("highest_severity", Value.ofOption Severity.toValue summary.highestSeverity)]

/-- Reads a summary. -/
def reader : Reader :=
  Reader.record "SecuritySummary"
    [.required "files_scanned" (Reader.count 64), .required "files_skipped" (Reader.count 64),
     .required "total_findings" (Reader.count 64),
     .required "severity_counts" SeverityCounts.reader,
     .required "overall_risk_score" Reader.real, .possible "highest_severity" Severity.reader]

/-- The summary of a value. -/
def ofValue? (value : Value) : Option SecuritySummary := do
  return {
    filesScanned := ← value.field? "files_scanned" Value.asCount?
    filesSkipped := ← value.field? "files_skipped" Value.asCount?
    totalFindings := ← value.field? "total_findings" Value.asCount?
    severityCounts := ← value.field? "severity_counts" SeverityCounts.ofValue?
    overallRiskScore := ← value.field? "overall_risk_score" Value.asReal?
    highestSeverity := ← value.field? "highest_severity" (Value.asOption? Severity.ofValue?) }

end SecuritySummary

namespace SecurityReport

/-- The JSON value of a report. -/
def toValue (report : SecurityReport) : Value :=
  .object
    [("metadata", report.metadata.toValue), ("summary", report.summary.toValue),
     ("files", .list (report.files.map FileSecurityReport.toValue)),
     ("dependency_scan", Value.ofOption DependencyOutcome.toValue report.dependencyScan)]

/-- Reads a report. -/
def reader : Reader :=
  Reader.record "SecurityReport"
    [.required "metadata" Metadata.reader, .required "summary" SecuritySummary.reader,
     .required "files" (Reader.list FileSecurityReport.reader),
     .possible "dependency_scan" DependencyOutcome.reader]

/-- The report of a value. -/
def ofValue? (value : Value) : Option SecurityReport := do
  return {
    metadata := ← value.field? "metadata" Metadata.ofValue?
    summary := ← value.field? "summary" SecuritySummary.ofValue?
    files := ← value.field? "files" (Value.asListOf? FileSecurityReport.ofValue?)
    dependencyScan :=
      ← value.field? "dependency_scan" (Value.asOption? DependencyOutcome.ofValue?) }

end SecurityReport

end CodeAudit
