import CodeAudit.Files.Record
import CodeAudit.Floating.Text
import CodeAudit.Migration.Plan
import CodeAudit.Migration.Step
import CodeAudit.Model.Answer
import CodeAudit.Model.Client

/-!
# Planning a migration

The readable files give the detected frameworks and the complexity.  If there is a model and a
packaged codebase the model is asked once; its steps are merged with the static ones by priority,
and its estimate is averaged with the static one.  A failed or unusable answer counts as no answer.
-/

namespace CodeAudit
namespace Migration

open Json

/-- A step as the model words it. -/
structure PlannedStep where
  title : String
  description : String
  priority : String
  category : String
  effort : String
  deriving DecidableEq, Inhabited

/-- The answer of the model about a migration. -/
structure Outline where
  summary : String
  steps : List PlannedStep
  risks : List String
  estimatedWeeks : Option Floating
  deriving DecidableEq, Inhabited

namespace PlannedStep

/-- Reads a step. -/
def reader : Reader :=
  Reader.record "LlmMigrationStep"
    [.defaulted "title" (.text "") Reader.text, .defaulted "description" (.text "") Reader.text,
     .defaulted "priority" (.text "") Reader.text, .defaulted "category" (.text "") Reader.text,
     ⟨["effort", "effort_estimate"], .default (.text ""), Reader.text⟩]

/-- The step of a value. -/
def ofValue? (value : Value) : Option PlannedStep := do
  return {
    title := ← value.field? "title" Value.asText?
    description := ← value.field? "description" Value.asText?
    priority := ← value.field? "priority" Value.asText?
    category := ← value.field? "category" Value.asText?
    effort := ← value.field? "effort" Value.asText? }

/-- The step in a plan; a category or an effort that is blank has a name there. -/
def toStep (step : PlannedStep) : MigrationStep where
  title := step.title
  description := step.description
  priority := .ofLabel step.priority
  category := if Text.isBlankText step.category then "General" else step.category
  effort := if Text.isBlankText step.effort then "Unknown" else step.effort

end PlannedStep

namespace Outline

/-- What is assumed without a usable answer. -/
def default : Outline where
  summary :=
    "Migration plan derived from static analysis only; no model assessment was available."
  steps := []
  risks :=
    ["Framework-specific behaviour (transactions, session handling, security filters) may not map one-to-one.",
     "Effort estimates are heuristic and should be validated by the team."]
  estimatedWeeks := none

/-- Reads an outline. -/
def reader : Reader :=
  Reader.record "LlmMigrationPlan"
    [.defaulted "summary" (.text "") Reader.text,
     .defaulted "steps" (.list []) (Reader.list PlannedStep.reader),
     .defaulted "risks" (.list []) (Reader.list Reader.text),
     .defaulted "estimated_weeks" .null (Reader.optional Reader.real)]

/-- The outline of a value. -/
def ofValue? (value : Value) : Option Outline := do
  return {
    summary := ← value.field? "summary" Value.asText?
    steps := ← value.field? "steps" (Value.asListOf? PlannedStep.ofValue?)
    risks := ← value.field? "risks" (Value.asListOf? Value.asText?)
    estimatedWeeks := ← value.field? "estimated_weeks" (Value.asOption? Value.asReal?) }

/-- The outline in an answer. -/
def ofAnswer? (answer : String) : Option Outline := Answer.read? reader ofValue? answer

end Outline

/-- The role of the model in planning. -/
def planningRole : String :=
  "You are a software modernization architect. Given a legacy codebase and the detected frameworks, produce a migration plan to the requested target framework. Respond with strict JSON only: \x7b\"summary\": \"...\", \"steps\": [\x7b\"title\": \"...\", \"description\": \"...\", \"priority\": \"Critical|High|Medium|Low\", \"category\": \"...\", \"effort\": \"e.g. 3-5 days\"\x7d], \"risks\": [\"...\"], \"estimated_weeks\": 8\x7d"

/-- A detection as it stands in the question. -/
def detectionLine (d : Detection) : String :=
  "- " ++ d.name ++ ": " ++ toString d.occurrences ++ " markers in "
    ++ toString d.files.length ++ " files\n"

/-- The question about a migration. -/
def planningQuestion (target : String) (detections : List Detection) (complexity : Complexity)
    (package : Package) : String :=
  "Target framework: " ++ target ++ "\n\nDetected legacy frameworks:\n"
    ++ (if detections.isEmpty then "- none detected by static markers\n" else "")
    ++ String.join (detections.map detectionLine)
    ++ "\nStructure: " ++ toString complexity.filesParsed ++ " files, "
    ++ toString complexity.totalClasses ++ " classes, "
    ++ toString complexity.totalFunctions ++ " functions, complexity "
    ++ complexity.score.fixedText 1 ++ "/10\n"
    ++ "\nCodebase:\n" ++ package.shown

/-- The contents of the files that can be read, in order. -/
def readableSources (read : ReadFile) (files : List FileRecord) : List (FileRecord × String) :=
  files.filterMap fun file => (read file).map fun content => (file, content)

/-- The structure of a file, if its language has one. -/
def structureOf? (file : FileRecord) (content : String) : Option FileStructure :=
  (file.language.filter fun language => (LanguagePatterns.of? language).isSome).map fun language =>
    FileStructure.ofContent file.relativePath language content

/-- The weeks that a model estimates, unless the estimate makes no sense. -/
def usableWeeks? (outline : Outline) : Option Floating :=
  outline.estimatedWeeks.filter fun weeks => weeks.isFinite && Floating.less 0 weeks

/-- The plan from the static results and the outline of the model, if there is one. -/
def plan (metadata : Metadata) (target : String) (detections : List Detection)
    (complexity : Complexity) (packaging : Option PackagingMethod) (answer : Option Outline) :
    MigrationPlan :=
  let outline := answer.getD .default
  let steps := heuristicSteps detections target ++ outline.steps.map PlannedStep.toStep
  let weeks := heuristicWeeks complexity detections
  { metadata := metadata
    targetFramework := target
    detectedFrameworks := detections
    complexity := complexity
    summary :=
      if Text.isBlankText outline.summary then Outline.default.summary else outline.summary
    steps := steps.mergeSort fun a b => decide (a.priority.rank ≤ b.priority.rank)
    risks := outline.risks
    estimatedWeeks :=
      match usableWeeks? outline with
      | some estimate => ((weeks + estimate) / 2).roundTenth
      | none => weeks
    modelUsed := answer.isSome
    packaging := packaging }

/-- What the console shows for the static results. -/
def staticLines (detections : List Detection) (complexity : Complexity) : List String :=
  (if detections.isEmpty then ["  • No legacy framework markers found"] else [])
    ++ detections.map (fun d =>
      "  ▸ " ++ d.name ++ " (" ++ toString d.occurrences ++ " markers in "
        ++ toString d.files.length ++ " files)")
    ++ ["  ▸ " ++ toString complexity.filesParsed ++ " files parsed, complexity "
      ++ complexity.score.fixedText 1 ++ "/10"]

/-- Asks the model about a migration, if there is a packaged codebase to show. -/
def outline (client : Option Client) (earlier : List Prompt) (target : String)
    (detections : List Detection) (complexity : Complexity) (package : Option Package) :
    Option Outline × List Prompt :=
  match package with
  | none => (none, earlier)
  | some package =>
    let question := planningQuestion target detections complexity package
    let (answer, prompts) := ask client earlier ⟨planningRole, question⟩
    (answer.bind Outline.ofAnswer?, prompts)

/-- Plans the migration of a project. -/
def analyze (client : Option Client) (read : ReadFile) (earlier : List Prompt)
    (metadata : Metadata) (files : List FileRecord) (target : String)
    (package : Option Package) : Audited MigrationPlan :=
  let sources := readableSources read files
  let detections := Detection.all (sources.map fun (file, content) => (file.relativePath, content))
  let complexity := Complexity.of (sources.filterMap fun (file, content) =>
    structureOf? file content)
  let (answer, prompts) := outline client earlier target detections complexity package
  { result := plan metadata target detections complexity (package.map Package.method) answer
    console := staticLines detections complexity
    prompts := prompts }

end Migration
end CodeAudit
