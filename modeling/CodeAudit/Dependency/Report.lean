import CodeAudit.Dependency.Outcome

/-!
# Reports of the dependency scanner

A report lists dependencies, each with its vulnerabilities.  Every vulnerability of a dependency
becomes one finding; the worst findings come first, and findings that are equally bad stay in the
order of the report.
-/

namespace CodeAudit
namespace Dependency

open Json

/-- A vulnerability as the scanner reports it. -/
structure ReportedVulnerability where
  name : String
  severity : Option String
  description : Option String
  /-- The score of the second version of the scoring system. -/
  oldScore : Option Floating
  /-- The score of the third version of the scoring system. -/
  newScore : Option Floating
  deriving DecidableEq, Inhabited

/-- A dependency as the scanner reports it. -/
structure ReportedDependency where
  fileName : String
  vulnerabilities : List ReportedVulnerability
  deriving DecidableEq, Inhabited

namespace ReportedVulnerability

/-- Reads a vulnerability. -/
def reader : Reader :=
  Reader.record "ReportVulnerability"
    [.required "name" Reader.text,
     .defaulted "severity" .null (Reader.optional Reader.text),
     .defaulted "description" .null (Reader.optional Reader.text),
     .defaulted "cvssv2" .null (Reader.optional
       (Reader.record "CvssV2" [.required "score" Reader.real])),
     .defaulted "cvssv3" .null (Reader.optional
       (Reader.record "CvssV3" [.required "baseScore" Reader.real]))]

/-- The vulnerability of a value. -/
def ofValue? (value : Value) : Option ReportedVulnerability := do
  return {
    name := ← value.field? "name" Value.asText?
    severity := ← value.field? "severity" (Value.asOption? Value.asText?)
    description := ← value.field? "description" (Value.asOption? Value.asText?)
    oldScore := ← value.field? "cvssv2" (Value.asOption? fun scores =>
      scores.field? "score" Value.asReal?)
    newScore := ← value.field? "cvssv3" (Value.asOption? fun scores =>
      scores.field? "baseScore" Value.asReal?) }

/-- The score of a vulnerability: the third version is preferred. -/
def score? (v : ReportedVulnerability) : Option Floating := v.newScore.or v.oldScore

/-- The severity of a vulnerability: a score decides over a label. -/
def severityOf (v : ReportedVulnerability) : Severity :=
  match v.score?, v.severity with
  | some score, _ => .ofScore score
  | none, some label => .ofLabel label
  | none, none => .medium

/-- The identifier of a vulnerability in the public list, if it has one. -/
def cve? (v : ReportedVulnerability) : Option String :=
  if "CVE-".toList.isPrefixOf v.name.toList then some v.name else none

/-- The description of a vulnerability of a dependency; a blank one is replaced. -/
def descriptionFor (v : ReportedVulnerability) (file : String) : String :=
  match (v.description.map Text.trim).filter fun text => !text.isEmpty with
  | some text => text
  | none => v.name ++ " affects " ++ file

/-- The finding for a vulnerability of a dependency. -/
def finding (v : ReportedVulnerability) (file : String) : Vulnerability where
  kind := "Vulnerable Dependency"
  severity := v.severityOf
  line := none
  description := v.descriptionFor file
  recommendation := some ("Upgrade " ++ file ++ " to a release that fixes " ++ v.name)
  file := file
  source := .dependencyScanner
  cve := v.cve?
  score := v.score?

end ReportedVulnerability

namespace ReportedDependency

/-- Reads a dependency. -/
def reader : Reader :=
  Reader.record "ReportDependency"
    [.required "fileName" Reader.text,
     .defaulted "vulnerabilities" (.list []) (Reader.list ReportedVulnerability.reader)]

/-- The dependency of a value. -/
def ofValue? (value : Value) : Option ReportedDependency := do
  return {
    fileName := ← value.field? "fileName" Value.asText?
    vulnerabilities :=
      ← value.field? "vulnerabilities" (Value.asListOf? ReportedVulnerability.ofValue?) }

/-- The findings for a dependency. -/
def findings (d : ReportedDependency) : List Vulnerability :=
  d.vulnerabilities.map fun v => v.finding d.fileName

end ReportedDependency

/-- Reads a report. -/
def reportReader : Reader :=
  Reader.record "Report"
    [.defaulted "dependencies" (.list []) (Reader.list ReportedDependency.reader)]

/-- The dependencies of a value. -/
def dependenciesOf? (value : Value) : Option (List ReportedDependency) :=
  value.field? "dependencies" (Value.asListOf? ReportedDependency.ofValue?)

/-- The findings for dependencies, the worst one first. -/
def findingsOf (dependencies : List ReportedDependency) : List Vulnerability :=
  (dependencies.flatMap ReportedDependency.findings).mergeSort fun a b =>
    decide (b.severity.level ≤ a.severity.level)

/-- The message for a text that is no report. -/
def invalidReport : String := "invalid dependency-check report"

/-- The findings of a report, or what is wrong with its text. -/
def findings (text : String) : Except String (List Vulnerability) :=
  match reportReader.parse text with
  | .error fault => .error (fault.message text)
  | .ok value => .ok (findingsOf ((dependenciesOf? value).getD []))

end Dependency
end CodeAudit
