import CodeAudit.Cloud.Assess
import CodeAudit.Config.Load
import CodeAudit.Dependency.Scan
import CodeAudit.Files.Discovery
import CodeAudit.Files.Statistics
import CodeAudit.Migration.Analyze
import CodeAudit.Model.Endpoint
import CodeAudit.Packaging.Pack
import CodeAudit.Security.Scan

/-!
# Auditing a project

A project is prepared once: its directory is checked, its files are discovered, and the model is
set up.  Then each of the three audits can be run on it.  A run goes on from a `Session`, which
holds the file system and the conversation with the model, and leaves another one.
-/

namespace CodeAudit
namespace Project

/-- What is around an audit: the programs that can be started, how the endpoint of a model is
reached, the directory for temporary files, and a text that is used for no other name there. -/
structure Surroundings where
  programs : Programs
  transport : Endpoint.Transport
  temporary : String
  unique : String
  /-- Such a text for each attempt to start the scanner of dependencies. -/
  drawn : Dependency.Launcher → String := fun _ => unique
  /-- When a directory was last changed. -/
  changed : String → Nat := fun _ => 0

/-- What an audit changes. -/
structure Session where
  files : FileSystem
  prompts : List Prompt

/-- What identifies a report: the run and the time. -/
structure Occasion where
  runId : RunId
  generatedAt : String

/-- What an audit yields: its result, the lines shown on the console, and the session after it. -/
structure Audit (α : Type) where
  result : α
  console : List String
  session : Session

/-- Why a project cannot be audited. -/
inductive AuditFault where
  | pathNotFound (path : String)
  | notADirectory (path : String)
  | missingApiKey
  | modelRefused (reason : String)
  deriving DecidableEq

/-- The wording of a fault. -/
def AuditFault.message : AuditFault → String
  | .pathNotFound path => "target path does not exist: " ++ path
  | .notADirectory path => "target path is not a directory: " ++ path
  | .missingApiKey =>
    "no LLM API key configured; set CODEWARDEN_API_KEY or OPENAI_API_KEY, add \x60api_key\x60 to the [llm] config section, or pass --skip-llm"
  | .modelRefused reason => reason

/-- The name of a fault. -/
def AuditFault.kind : AuditFault → String
  | .pathNotFound _ => "PathNotFound"
  | .notADirectory _ => "NotADirectory"
  | .missingApiKey => "MissingApiKey"
  | .modelRefused _ => "LlmError"

/-- A project that is ready to be audited. -/
structure Prepared where
  config : Config
  root : String
  files : List FileRecord
  client : Option Client

/-- Checks that a path leads to a directory. -/
def validate (fs : FileSystem) (path : String) : Except AuditFault Unit :=
  if !fs.hasEntry path then .error (.pathNotFound path)
  else if !fs.hasDirectory path then .error (.notADirectory path)
  else .ok ()

/-- Discovers the files of a project, and what the console shows of them. -/
def withClient (fs : FileSystem) (config : Config) (path : String) (client : Option Client) :
    Except AuditFault (Prepared × List String) := do
  validate fs path
  let files := Discovery.discover fs config path
  return (⟨config, path, files, client⟩,
    "🔍 Discovering files..." :: (Statistics.of files).summary)

/-- Prepares a project; without a model no key is needed.  The key is looked at here and once more
when the model is set up. -/
def prepare (around : Surroundings) (fs : FileSystem) (config : Config) (path : String)
    (skipModel : Bool) : Except AuditFault (Prepared × List String) := do
  validate fs path
  if skipModel then
    let (project, console) ← withClient fs config path none
    return (project, "⚡ Skipping LLM analysis (heuristics only)" :: console)
  else if !Config.hasKey config.model.apiKey then throw .missingApiKey
  else
    match Endpoint.client config.model around.transport with
    | .error reason => throw (.modelRefused reason)
    | .ok client => withClient fs config path (some client)

/-- What a report of a run says of it. -/
def metadata (project : Prepared) (occasion : Occasion) (command : String) : Metadata where
  runId := occasion.runId
  command := command
  target := project.root
  generatedAt := occasion.generatedAt
  toolVersion := toolVersion
  model := project.client.map Client.description

/-- Reads the files of a project. -/
def reading (fs : FileSystem) : ReadFile := fun file => (fs.readText file.path).toOption

/-- Packages the codebase, if there is a model to show it to.  The built-in packager reads the files
as the external program leaves them. -/
def packageFor (around : Surroundings) (project : Prepared) (session : Session) :
    Audit (Option Package) :=
  if project.client.isNone then ⟨none, [], session⟩
  else
    let name := "codewarden-pack-" ++ around.unique ++ ".txt"
    let left := (Packaging.runExternal around.programs session.files project.config.packager
      project.root around.temporary name).2
    let (package, files) := Packaging.package around.programs session.files
      project.config.packager (reading left) project.root around.temporary name project.files
    { result := some package
      console :=
        ["", "📦 Packaging codebase for the model..."]
          ++ (if package.truncated then
                ["  ! codebase truncated to fit the context budget"] else [])
      session := { session with files := files } }

/-- What the console shows of a dependency scan. -/
def dependencyLine (outcome : DependencyOutcome) : String :=
  match outcome.tool with
  | some tool =>
    "  ▸ " ++ tool ++ " reported " ++ toString outcome.vulnerabilities.length
      ++ " vulnerable dependencies"
  | none => "  ! no dependency scanner could run"

/-- Scans the dependencies of a project, unless they are to be skipped. -/
def scanDependencies (around : Surroundings) (project : Prepared) (session : Session)
    (skip : Bool) : Audit (Option DependencyOutcome) :=
  if skip || !project.config.scanner.enabled then
    ⟨none, ["", "⚡ Skipping dependency scan"], session⟩
  else
    let (outcome, files) := Dependency.scan around.programs session.files project.config.scanner
      project.root around.temporary
      (fun launcher => "codewarden-depcheck-" ++ around.drawn launcher) around.changed
    { result := some outcome
      console := ["", "📚 Scanning dependencies...", dependencyLine outcome]
      session := { session with files := files } }

/-- Scans a project for vulnerabilities. -/
def scanVulnerabilities (around : Surroundings) (project : Prepared) (occasion : Occasion)
    (session : Session) (skipDependencies : Bool) : Audit SecurityReport :=
  let scanned := Security.scan ⟨project.client, project.config.model.maxFileChars⟩
    (reading session.files) session.prompts project.files
  let dependencies := scanDependencies around project
    { session with prompts := scanned.prompts } skipDependencies
  { result :=
      { metadata := metadata project occasion "scan"
        summary := SecuritySummary.of scanned.reports scanned.skipped dependencies.result
        files := scanned.reports
        dependencyScan := dependencies.result }
    console :=
      ["", "🛡️  Scanning " ++ toString project.files.length ++ " files..."]
        ++ scanned.console ++ dependencies.console
    session := dependencies.session }

/-- Plans the migration of a project. -/
def planMigration (around : Surroundings) (project : Prepared) (occasion : Occasion)
    (session : Session) (target : String) : Audit MigrationPlan :=
  let packaged := packageFor around project session
  let planned := Migration.analyze project.client (reading packaged.session.files)
    packaged.session.prompts (metadata project occasion "migrate") project.files target
    packaged.result
  { result := planned.result
    console :=
      packaged.console ++ ["", "🧭 Planning migration to " ++ target ++ "..."] ++ planned.console
    session := { packaged.session with prompts := planned.prompts } }

/-- Assesses how ready a project is for a cloud provider. -/
def assessCloudReadiness (around : Surroundings) (project : Prepared) (occasion : Occasion)
    (session : Session) (provider : Provider) : Audit CloudReport :=
  let packaged := packageFor around project session
  let assessed := Cloud.assess project.client (reading packaged.session.files)
    packaged.session.prompts (metadata project occasion "cloud") project.files provider
    packaged.result
  { result := assessed.result
    console :=
      packaged.console ++ ["", "☁️  Assessing readiness for " ++ provider.label ++ "..."]
        ++ assessed.console
    session := { packaged.session with prompts := assessed.prompts } }

end Project
end CodeAudit
