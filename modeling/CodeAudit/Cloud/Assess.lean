import CodeAudit.Cloud.Check
import CodeAudit.Cloud.Report
import CodeAudit.Files.Record
import CodeAudit.Floating.Text
import CodeAudit.Model.Answer
import CodeAudit.Model.Client

/-!
# Assessing a project for the cloud

The static issues of the readable files and of the project give the static score.  If there is a
model and a packaged codebase the model is asked once; its score is averaged with the static one,
and its issues and recommendations follow the static ones.  A failed or unusable answer counts as
no answer.
-/

namespace CodeAudit
namespace Cloud

open Json

/-- An issue as the model words it. -/
structure AssessedIssue where
  category : String
  severity : String
  description : String
  recommendation : String
  deriving DecidableEq, Inhabited

/-- The answer of the model about a project. -/
structure Assessment where
  readinessScore : Option Floating
  summary : String
  issues : List AssessedIssue
  recommendations : List String
  deriving DecidableEq, Inhabited

namespace AssessedIssue

/-- Reads an issue. -/
def reader : Reader :=
  Reader.record "LlmCloudIssue"
    (["category", "severity", "description", "recommendation"].map fun name =>
      .defaulted name (.text "") Reader.text)

/-- The issue of a value. -/
def ofValue? (value : Value) : Option AssessedIssue := do
  return {
    category := ← value.field? "category" Value.asText?
    severity := ← value.field? "severity" Value.asText?
    description := ← value.field? "description" Value.asText?
    recommendation := ← value.field? "recommendation" Value.asText? }

/-- The issue in a report; a category that is blank has a name there. -/
def toIssue (issue : AssessedIssue) : CloudIssue where
  category := if Text.isBlankText issue.category then "General" else issue.category
  severity := .ofLabel issue.severity
  description := issue.description
  recommendation := issue.recommendation
  file := none
  line := none

end AssessedIssue

namespace Assessment

/-- What is assumed without a usable answer. -/
def default : Assessment where
  readinessScore := none
  summary :=
    "Readiness assessed from static checks only; no model assessment was available."
  issues := []
  recommendations := []

/-- Reads an assessment. -/
def reader : Reader :=
  Reader.record "LlmCloudAssessment"
    [.defaulted "readiness_score" .null (Reader.optional Reader.real),
     .defaulted "summary" (.text "") Reader.text,
     .defaulted "issues" (.list []) (Reader.list AssessedIssue.reader),
     .defaulted "recommendations" (.list []) (Reader.list Reader.text)]

/-- The assessment of a value. -/
def ofValue? (value : Value) : Option Assessment := do
  return {
    readinessScore := ← value.field? "readiness_score" (Value.asOption? Value.asReal?)
    summary := ← value.field? "summary" Value.asText?
    issues := ← value.field? "issues" (Value.asListOf? AssessedIssue.ofValue?)
    recommendations := ← value.field? "recommendations" (Value.asListOf? Value.asText?) }

/-- The assessment in an answer. -/
def ofAnswer? (answer : String) : Option Assessment := Answer.read? reader ofValue? answer

end Assessment

/-- The role of the model in an assessment. -/
def assessmentRole : String :=
  "You are a cloud architect assessing whether an application can be deployed to a public cloud. Respond with strict JSON only: \x7b\"readiness_score\": 0-10, \"summary\": \"...\", \"issues\": [\x7b\"category\": \"...\", \"severity\": \"Critical|High|Medium|Low\", \"description\": \"...\", \"recommendation\": \"...\"\x7d], \"recommendations\": [\"...\"]\x7d"

/-- Where an issue is, in parentheses. -/
def location (issue : CloudIssue) : String :=
  match issue.file, issue.line with
  | some file, some line => " (" ++ file ++ ":" ++ toString line ++ ")"
  | some file, none => " (" ++ file ++ ")"
  | none, _ => ""

/-- An issue as it stands in the question. -/
def issueLine (issue : CloudIssue) : String :=
  "- [" ++ issue.severity.label ++ "] " ++ issue.category ++ ": " ++ issue.description
    ++ location issue ++ "\n"

/-- How many issues the question shows. -/
def shownIssues : Nat := 50

/-- The question about a project. -/
def assessmentQuestion (provider : Provider) (issues : List CloudIssue) (score : Floating)
    (package : Package) : String :=
  "Target provider: " ++ provider.label ++ "\nStatic readiness score: " ++ score.fixedText 1
    ++ "/10\n\nStatic findings:\n"
    ++ (if issues.isEmpty then "- none\n" else "")
    ++ String.join ((issues.take shownIssues).map issueLine)
    ++ "\nCodebase:\n" ++ package.shown

/-- The contents of the files that can be read, in order. -/
def readableSources (read : ReadFile) (files : List FileRecord) : List SourceText :=
  files.filterMap fun file => (read file).map fun content => (file.relativePath, content)

/-- The issues of all files and of the project. -/
def staticIssues (sources : List SourceText) : List CloudIssue :=
  sources.flatMap (fun (path, content) => fileIssues path content) ++ projectIssues sources

/-- The services of a provider for the categories that it has one for. -/
def serviceAdvice (provider : Provider) (categories : List (String × Nat)) : List String :=
  categories.filterMap fun (category, _) =>
    (provider.service? category).map fun service =>
      category ++ ": use " ++ service ++ " on " ++ provider.label

/-- The report from the static issues and the assessment of the model, if there is one. -/
def report (metadata : Metadata) (provider : Provider) (issues : List CloudIssue)
    (packaging : Option PackagingMethod) (answer : Option Assessment) : CloudReport :=
  let assessment := answer.getD .default
  let heuristic := heuristicScore issues
  let modelScore := (assessment.readinessScore.filter Floating.isFinite).map (Floating.clamp 0 10)
  let readiness :=
    match modelScore with
    | some score => ((heuristic + score) / 2).roundTenth
    | none => heuristic
  let issues := issues ++ assessment.issues.map AssessedIssue.toIssue
  let categories := categories issues
  { metadata := metadata
    provider := provider
    readinessScore := readiness
    heuristicScore := heuristic
    modelScore := modelScore
    rating := rating readiness
    summary :=
      if Text.isBlankText assessment.summary then Assessment.default.summary
      else assessment.summary
    issues := issues
    severityCounts := .tally (issues.map CloudIssue.severity)
    categoryBreakdown := categories
    recommendations := serviceAdvice provider categories ++ assessment.recommendations
    modelUsed := answer.isSome
    packaging := packaging }

/-- What the console shows for the static issues. -/
def staticLine (issues : List CloudIssue) : String :=
  "  ▸ " ++ toString issues.length ++ " heuristic issues, static score "
    ++ (heuristicScore issues).fixedText 1 ++ "/10"

/-- Asks the model about a project, if there is a packaged codebase to show. -/
def assessment (client : Option Client) (earlier : List Prompt) (provider : Provider)
    (issues : List CloudIssue) (package : Option Package) : Option Assessment × List Prompt :=
  match package with
  | none => (none, earlier)
  | some package =>
    let question := assessmentQuestion provider issues (heuristicScore issues) package
    let (answer, prompts) := ask client earlier ⟨assessmentRole, question⟩
    (answer.bind Assessment.ofAnswer?, prompts)

/-- Assesses a project. -/
def assess (client : Option Client) (read : ReadFile) (earlier : List Prompt)
    (metadata : Metadata) (files : List FileRecord) (provider : Provider)
    (package : Option Package) : Audited CloudReport :=
  let issues := staticIssues (readableSources read files)
  let (answer, prompts) := assessment client earlier provider issues package
  { result := report metadata provider issues (package.map Package.method) answer
    console := [staticLine issues]
    prompts := prompts }

end Cloud
end CodeAudit
