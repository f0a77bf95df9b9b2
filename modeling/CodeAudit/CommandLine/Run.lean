import CodeAudit.CommandLine.Help
import CodeAudit.Config.Load
import CodeAudit.Project.Audit
import CodeAudit.Report.Markdown
import CodeAudit.Report.Save

/-!
# Running a command

A command prints what it does step by step.  If a step fails, what has been printed stays, and the
run ends with the reason.  An audit loads the configuration, prepares the project, runs, prints a
summary and saves its report.
-/

namespace CodeAudit
namespace CommandLine

open Project

/-- The circumstances of a run: what is around it, the environment variables, what identifies the
report, the local time as file names hold it, and the medium that files are written to. -/
structure Setup where
  around : Surroundings
  environment : Environment
  occasion : Occasion
  stamp : String
  medium : Medium := .sound

/-- How a run ends: the lines that were printed on the way, the report that was saved, why the run
failed if it did, and the files. -/
structure Ending where
  console : List String
  saved : Option Report.Saved
  failure : Option String
  files : FileSystem

/-- The lines at the beginning of an audit. -/
def banner (title path output : String) : List String :=
  ["🚀 Codewarden " ++ title, "====================================",
   "🎯 Target directory: " ++ path, "📤 Output directory: " ++ output]

/-- The lines at the end of an audit. -/
def closing (elapsed : String) (saved : Report.Saved) : List String :=
  ["", "✅ Completed in " ++ elapsed ++ "s", "📁 Reports written to:",
   "   - " ++ saved.jsonPath, "   - " ++ saved.markdownPath]

/-- The code that the program exits with. -/
def Ending.exitCode (ending : Ending) : Nat := if ending.failure.isSome then 1 else 0

/-- All lines that are printed by a run that takes a number of seconds. -/
def Ending.printed (ending : Ending) (elapsed : String) : List String :=
  ending.console ++ (ending.saved.map (closing elapsed)).getD []

/-- A kind of audit: its title, how it is run, and what is made of its result. -/
structure AuditCommand (α : Type) where
  title : String
  audit : Prepared → Session → Audit α
  summary : α → List String
  kind : Report.Kind
  toValue : α → Json.Value
  page : α → String

/-- Saves the report of an audit. -/
def saveReport {α : Type} (setup : Setup) (command : AuditCommand α) (output : String)
    (console : List String) (audit : Audit α) : Ending :=
  let (result, files) := Report.save audit.session.files output command.kind.stem setup.stamp
    (command.toValue audit.result) (command.page audit.result) setup.medium
  match result with
  | .error fault => ⟨console, none, some fault.message, files⟩
  | .ok saved => ⟨console, some saved, none, files⟩

/-- Runs an audit with a configuration. -/
def runWith {α : Type} (setup : Setup) (command : AuditCommand α) (fs : FileSystem)
    (config : Config) (request : AuditRequest) : Ending :=
  let output := request.output.getD config.outputDir
  let opening := banner command.title request.path output
  match prepare setup.around fs config request.path request.skipModel with
  | .error fault => ⟨opening, none, some fault.message, fs⟩
  | .ok (project, prepared) =>
    let audit := command.audit project ⟨fs, []⟩
    let console :=
      opening ++ prepared ++ audit.console ++ ["", "Summary"] ++ command.summary audit.result
    saveReport setup command output console audit

/-- Runs an audit. -/
def runAudit {α : Type} (setup : Setup) (command : AuditCommand α) (fs : FileSystem)
    (config : Option String) (request : AuditRequest) : Ending :=
  match Config.load fs setup.environment config with
  | .error fault => ⟨[], none, some fault.message, fs⟩
  | .ok config => runWith setup command fs config request

/-- The summary of a security report. -/
def securitySummary (report : SecurityReport) : List String :=
  let summary := report.summary
  ["  Files scanned: " ++ toString summary.filesScanned ++ " ("
      ++ toString summary.filesSkipped ++ " skipped)",
   "  Findings: " ++ toString summary.totalFindings]
    ++ (Severity.worstFirst.filter fun severity => 0 < summary.severityCounts.get severity).map
      (fun severity =>
        "    " ++ severity.label ++ ": " ++ toString (summary.severityCounts.get severity))
    ++ ["  Overall risk: " ++ summary.overallRiskScore.fixedText 1 ++ "/10"]

/-- The summary of a migration plan. -/
def migrationSummary (plan : MigrationPlan) : List String :=
  ["  Target: " ++ plan.targetFramework,
   "  Legacy frameworks: " ++ toString plan.detectedFrameworks.length,
   "  Steps: " ++ toString plan.steps.length,
   "  Estimated effort: " ++ plan.estimatedWeeks.fixedText 1 ++ " weeks"]

/-- The summary of a cloud readiness report. -/
def cloudSummary (report : CloudReport) : List String :=
  ["  Provider: " ++ report.provider.label,
   "  Readiness: " ++ report.readinessScore.fixedText 1 ++ "/10 (" ++ report.rating ++ ")",
   "  Issues: " ++ toString report.issues.length]

/-- The scan for vulnerabilities. -/
def scanCommand (setup : Setup) (skipDependencies : Bool) : AuditCommand SecurityReport where
  title := "Security Scan"
  audit := fun project session =>
    scanVulnerabilities setup.around project setup.occasion session skipDependencies
  summary := securitySummary
  kind := .security
  toValue := SecurityReport.toValue
  page := Markdown.security

/-- The plan of a migration. -/
def migrateCommand (setup : Setup) (target : String) : AuditCommand MigrationPlan where
  title := "Migration Planning"
  audit := fun project session =>
    planMigration setup.around project setup.occasion session target
  summary := migrationSummary
  kind := .migration
  toValue := MigrationPlan.toValue
  page := Markdown.migration

/-- The assessment for a cloud provider. -/
def cloudCommand (setup : Setup) (provider : Provider) : AuditCommand CloudReport where
  title := "Cloud Readiness"
  audit := fun project session =>
    assessCloudReadiness setup.around project setup.occasion session provider
  summary := cloudSummary
  kind := .cloud
  toValue := CloudReport.toValue
  page := Markdown.cloud

/-- The lines after a configuration file has been written. -/
def configWritten : List String :=
  ["✅ Configuration file created successfully!",
   "💡 Edit the file to set the LLM endpoint, scanner strategy and file filters.",
   "   API keys can also come from CODEWARDEN_API_KEY or OPENAI_API_KEY."]

/-- Writes a documented configuration file to a path. -/
def writeConfig (medium : Medium) (fs : FileSystem) (path : String) : Ending :=
  let opening := ["📝 Generating configuration file: " ++ path]
  match fs.writeOn medium path Config.documented.toUTF8 with
  | (.error fault, files) => ⟨opening, none, some fault.message, files⟩
  | (.ok (), files) => ⟨opening ++ configWritten, none, none, files⟩

/-- Writes a documented configuration file, unless told otherwise in the home directory. -/
def generateConfig (setup : Setup) (fs : FileSystem) : (output : Option String) → Ending
  | some path => writeConfig setup.medium fs path
  | none =>
    match Config.homePath setup.environment with
    | .error fault => ⟨[], none, some fault.message, fs⟩
    | .ok path => writeConfig setup.medium fs path

/-- Runs what a command line asks for. -/
def run (setup : Setup) (fs : FileSystem) (invocation : Invocation) : Ending :=
  match invocation.task with
  | .scan request skipDependencies =>
    runAudit setup (scanCommand setup skipDependencies) fs invocation.config request
  | .migrate request target =>
    runAudit setup (migrateCommand setup target) fs invocation.config request
  | .cloud request provider =>
    runAudit setup (cloudCommand setup provider) fs invocation.config request
  | .configure output => generateConfig setup fs output

end CommandLine
end CodeAudit
