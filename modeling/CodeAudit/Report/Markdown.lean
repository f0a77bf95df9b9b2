import CodeAudit.Cloud.Report
import CodeAudit.Floating.Text
import CodeAudit.Migration.Plan
import CodeAudit.Security.Report

/-!
# Reports as Markdown

Each of the three reports is written as a page: a title with the metadata, then its sections one
after another.  A page is the concatenation of its sections, so each section can be looked at alone.
-/

namespace CodeAudit
namespace Markdown

/-- The title of a page and where the report comes from. -/
def header (title : String) (m : Metadata) : String :=
  "# " ++ title ++ "\n\n**Target:** \x60" ++ m.target ++ "\x60\n**Generated:** " ++ m.generatedAt
    ++ "\n**Run ID:** " ++ m.runId.text ++ "\n"
    ++ (match m.model with
        | some model => "**LLM:** " ++ model ++ "\n\n"
        | none => "**LLM:** disabled (heuristics only)\n\n")

/-- The table of the severities. -/
def severityTable (counts : SeverityCounts) : String :=
  "| Severity | Count |\n|----------|-------|\n"
    ++ String.join (Severity.worstFirst.map fun severity =>
      "| " ++ severity.label ++ " | " ++ toString (counts.get severity) ++ " |\n")
    ++ "\n"

/-- How the codebase was packaged. -/
def packagingLabel : Option PackagingMethod → String
  | some .external => "external packager"
  | some .manual => "built-in packager"
  | none => "not packaged"

/-- A score with one decimal place, out of ten. -/
def outOfTen (score : Floating) : String := score.fixedText 1 ++ "/10"

/-- A vulnerability as an item. -/
def vulnerabilityItem (v : Vulnerability) : String :=
  "- **[" ++ v.severity.label ++ "] " ++ v.kind ++ "**"
    ++ (match v.line with
        | some line => " (line " ++ toString line ++ ")"
        | none => "")
    ++ (match v.cve with
        | some cve => " \x60" ++ cve ++ "\x60"
        | none => "")
    ++ ": " ++ v.description ++ " _(" ++ v.source.label ++ ")_\n"
    ++ (match v.recommendation with
        | some recommendation => "  - Recommendation: " ++ recommendation ++ "\n"
        | none => "")

/-! ## The security report -/

/-- The numbers at the head of a security report. -/
def securitySummary (s : SecuritySummary) : String :=
  "## Summary\n\n"
    ++ "- **Files scanned:** " ++ toString s.filesScanned ++ "\n"
    ++ "- **Files skipped:** " ++ toString s.filesSkipped ++ "\n"
    ++ "- **Total findings:** " ++ toString s.totalFindings ++ "\n"
    ++ "- **Overall risk score:** " ++ outOfTen s.overallRiskScore ++ "\n"
    ++ "- **Highest severity:** "
    ++ (match s.highestSeverity with
        | some severity => severity.label
        | none => "none")
    ++ "\n\n"

/-- A vulnerable dependency as a row of the table. -/
def dependencyRow (v : Vulnerability) : String :=
  "| " ++ v.severity.label ++ " | " ++ v.file ++ " | " ++ v.cve.getD "-" ++ " | "
    ++ (match v.score with
        | some score => score.fixedText 1
        | none => "-")
    ++ " |\n"

/-- The section about the dependencies. -/
def dependencySection (outcome : DependencyOutcome) : String :=
  "## Dependency Scan\n\n"
    ++ (match outcome.tool with
        | some tool => "Scanned with " ++ tool ++ ".\n\n"
        | none => "No dependency scanner could be run.\n\n")
    ++ String.join (outcome.errors.map fun error => "- ⚠️ " ++ error ++ "\n")
    ++ (if outcome.errors.isEmpty then "" else "\n")
    ++ (if outcome.vulnerabilities.isEmpty then "No vulnerable dependencies reported.\n\n"
        else
          "| Severity | Dependency | CVE | Score |\n|----------|------------|-----|-------|\n"
            ++ String.join (outcome.vulnerabilities.map dependencyRow) ++ "\n")

/-- Whether a file is listed before another one: the greater risk first, then by name. -/
def riskierFirst (a b : FileSecurityReport) : Bool :=
  if Floating.before b.riskScore a.riskScore then true
  else if Floating.before a.riskScore b.riskScore then false
  else !decide (b.file < a.file)

/-- The files with findings, the riskiest one first. -/
def flaggedFiles (files : List FileSecurityReport) : List FileSecurityReport :=
  (files.filter fun file => !file.vulnerabilities.isEmpty).mergeSort riskierFirst

/-- The part about a file. -/
def fileSection (file : FileSecurityReport) : String :=
  "### \x60" ++ file.file ++ "\x60 (" ++ file.severity.label ++ " · " ++ outOfTen file.riskScore
    ++ ")\n\n"
    ++ (match file.modelSummary with
        | some summary => summary ++ "\n\n"
        | none => "")
    ++ String.join (file.vulnerabilities.map vulnerabilityItem) ++ "\n"

/-- The section about the files. -/
def filesSection (files : List FileSecurityReport) : String :=
  let flagged := flaggedFiles files
  let clean := files.length - flagged.length
  "## Files\n\n"
    ++ (if flagged.isEmpty then "No source-level findings.\n"
        else
          String.join (flagged.map fileSection)
            ++ (if 0 < clean then toString clean ++ " other file(s) had no findings.\n" else ""))

/-- The page of a security report. -/
def security (report : SecurityReport) : String :=
  header "Security Scan Report" report.metadata
    ++ securitySummary report.summary
    ++ "## Findings by Severity\n\n" ++ severityTable report.summary.severityCounts
    ++ (report.dependencyScan.map dependencySection).getD ""
    ++ filesSection report.files

/-! ## The migration plan -/

/-- The section about the frameworks. -/
def frameworksSection (detections : List Detection) : String :=
  "## Detected Legacy Frameworks\n\n"
    ++ (if detections.isEmpty then "None detected.\n\n"
        else
          "| Framework | Occurrences | Files |\n|-----------|-------------|-------|\n"
            ++ String.join (detections.map fun d =>
              "| " ++ d.name ++ " | " ++ toString d.occurrences ++ " | "
                ++ toString d.files.length ++ " |\n")
            ++ "\n")

/-- The section about the complexity. -/
def complexitySection (c : Complexity) : String :=
  "## Codebase Complexity\n\n"
    ++ "- " ++ toString c.filesParsed ++ " files parsed, " ++ toString c.totalLines ++ " lines\n"
    ++ "- " ++ toString c.totalFunctions ++ " functions, " ++ toString c.totalClasses
    ++ " classes, " ++ toString c.totalImports ++ " imports, " ++ toString c.totalBranches
    ++ " branches\n\n"
    ++ (if c.mostComplex.isEmpty then ""
        else
          "Most complex files:\n\n"
            ++ String.join (c.mostComplex.map fun file =>
              "- \x60" ++ file.path ++ "\x60 (" ++ file.language ++ ", complexity "
                ++ toString file.complexity ++ ")\n")
            ++ "\n")

/-- A step with its number. -/
def stepItem (number : Nat) (step : MigrationStep) : String :=
  toString number ++ ". **" ++ step.title ++ "** [" ++ step.priority.label ++ " · "
    ++ step.category ++ "]\n   " ++ step.description ++ "\n"
    ++ (if step.effort.isEmpty then "" else "   _Effort:_ " ++ step.effort ++ "\n")
    ++ "\n"

/-- Steps with their numbers, from `number` on. -/
def stepItems (number : Nat) : List MigrationStep → String
  | [] => ""
  | step :: rest => stepItem number step ++ stepItems (number + 1) rest

/-- The page of a migration plan. -/
def migration (plan : MigrationPlan) : String :=
  header "Migration Plan" plan.metadata
    ++ "## Overview\n\n"
    ++ "- **Target framework:** " ++ plan.targetFramework ++ "\n"
    ++ "- **Estimated effort:** " ++ plan.estimatedWeeks.fixedText 1 ++ " weeks\n"
    ++ "- **Complexity score:** " ++ outOfTen plan.complexity.score ++ "\n"
    ++ "- **Codebase context:** " ++ packagingLabel plan.packaging ++ "\n\n"
    ++ plan.summary ++ "\n\n"
    ++ frameworksSection plan.detectedFrameworks
    ++ complexitySection plan.complexity
    ++ "## Steps\n\n" ++ stepItems 1 plan.steps
    ++ (if plan.risks.isEmpty then ""
        else "## Risks\n\n" ++ String.join (plan.risks.map fun risk => "- " ++ risk ++ "\n"))

/-! ## The cloud readiness report -/

/-- Where an issue is, in parentheses. -/
def location (issue : CloudIssue) : String :=
  match issue.file, issue.line with
  | some file, some line => " (\x60" ++ file ++ "\x60:" ++ toString line ++ ")"
  | some file, none => " (\x60" ++ file ++ "\x60)"
  | none, _ => ""

/-- An issue as an item. -/
def issueItem (issue : CloudIssue) : String :=
  "- **[" ++ issue.severity.label ++ "] " ++ issue.category ++ "**" ++ location issue ++ ": "
    ++ issue.description ++ "\n"
    ++ (if issue.recommendation.isEmpty then ""
        else "  - Recommendation: " ++ issue.recommendation ++ "\n")

/-- The section about the issues: one severity after another, the worst one first. -/
def issuesSection (issues : List CloudIssue) : String :=
  "## Issues\n\n"
    ++ (if issues.isEmpty then "No issues found.\n\n" else "")
    ++ String.join (Severity.worstFirst.map fun severity =>
      String.join ((issues.filter fun issue => issue.severity == severity).map issueItem))

/-- The section about the categories. -/
def categoriesSection (categories : List (String × Nat)) : String :=
  if categories.isEmpty then ""
  else
    "## Issues by Category\n\n| Category | Count |\n|----------|-------|\n"
      ++ String.join (categories.map fun (category, count) =>
        "| " ++ category ++ " | " ++ toString count ++ " |\n")
      ++ "\n"

/-- The page of a cloud readiness report. -/
def cloud (report : CloudReport) : String :=
  header "Cloud Readiness Report" report.metadata
    ++ "## Overview\n\n"
    ++ "- **Provider:** " ++ report.provider.label ++ "\n"
    ++ "- **Readiness score:** " ++ outOfTen report.readinessScore ++ " (" ++ report.rating
    ++ ")\n"
    ++ "- **Static score:** " ++ outOfTen report.heuristicScore ++ "\n"
    ++ (match report.modelScore with
        | some score => "- **Model score:** " ++ outOfTen score ++ "\n"
        | none => "")
    ++ "- **Codebase context:** " ++ packagingLabel report.packaging ++ "\n\n"
    ++ report.summary ++ "\n\n"
    ++ "## Issues by Severity\n\n" ++ severityTable report.severityCounts
    ++ categoriesSection report.categoryBreakdown
    ++ issuesSection report.issues
    ++ (if report.recommendations.isEmpty then ""
        else
          "\n## Recommendations\n\n"
            ++ String.join (report.recommendations.map fun advice => "- " ++ advice ++ "\n"))

end Markdown
end CodeAudit
