import CodeAudit.Config.Basic
import CodeAudit.Dependency.Report
import CodeAudit.Program.Run

/-!
# Scanning the dependencies

The scanner can be started in three ways: as a plugin of a build tool, as a program, or in a
container.  The ways are tried one after another until one yields a report.  A way that fails leaves
a message that says why, and what it left in its output directory is removed.
-/

namespace CodeAudit
namespace Dependency

/-- A way to start the scanner.  `auto` stands for the ways that suit a project; it is resolved into
these and cannot be started itself. -/
inductive Launcher where
  | auto
  | maven
  | cli
  | docker
  deriving DecidableEq, Inhabited

/-- Why a way to start the scanner fails. -/
inductive LaunchFault where
  | unresolvedAuto
  | noOutputDirectory (path : String) (fault : FileFault)
  | unresolved (root : String) (fault : FileFault)
  | timedOut (limit : Nat)
  | notStarted (fault : StartFault)
  | failed (finish : Finish) (errorOutput : String)
  | noReport (path : String) (fault : FileFault)
  | invalid (reason : String)

namespace Launcher

/-- The name in reports. -/
def label : Launcher → String
  | auto => "auto"
  | maven => "maven-plugin"
  | cli => "dependency-check-cli"
  | docker => "docker"

/-- The name in a configuration. -/
def strategy : Launcher → Strategy
  | auto => .auto
  | maven => .maven
  | cli => .cli
  | docker => .docker

/-- The ways that a configuration allows; the plugin is tried where the build tool is used. -/
def allowed (fs : FileSystem) (config : ScannerConfig) (root : String) : List Launcher :=
  match config.strategy with
  | .auto =>
    (if fs.hasFile (Path.join root "pom.xml") then [maven] else []) ++ [cli, docker]
  | .maven => [maven]
  | .cli => [cli]
  | .docker => [docker]

end Launcher

/-- The name of a report file. -/
def reportFile : String := "dependency-check-report.json"

/-- The image of the scanner. -/
def image : String := "owasp/dependency-check:latest"

/-- The last name of the real path of a project. -/
def projectName (fs : FileSystem) (root : String) : String :=
  ((fs.realPath? root).bind List.getLast?).getD "project"

/-- The command of a way to start the scanner. -/
def command (fs : FileSystem) (config : ScannerConfig) (root out : String) :
    Launcher → Except LaunchFault Command
  | .auto => .error .unresolvedAuto
  | .maven => .ok {
      program := "mvn"
      arguments :=
        ["-q", "-B", "org.owasp:dependency-check-maven:check", "-Dformat=JSON",
         "-DoutputDirectory=" ++ out]
          ++ (config.nvdApiKey.map fun key => "-DnvdApiKey=" ++ key).toList
      directory := some root }
  | .cli => .ok {
      program := "dependency-check"
      arguments :=
        ["--project", projectName fs root, "--scan", root, "--format", "JSON", "--out", out]
          ++ (config.nvdApiKey.map fun key => ["--nvdApiKey", key]).getD []
      directory := none }
  | .docker =>
    match fs.entry root, fs.realPath? root with
    | .ok _, some names => .ok {
        program := "docker"
        arguments :=
          ["run", "--rm", "-v", "/" ++ "/".intercalate names ++ ":/src:ro", "-v",
           out ++ ":/report", image, "--project", projectName fs root, "--scan", "/src",
           "--format", "JSON", "--out", "/report"]
            ++ (config.nvdApiKey.map fun key => ["--nvdApiKey", key]).getD []
        directory := none }
    | .ok _, none => .error (.unresolved root .missing)
    | .error fault, _ => .error (.unresolved root fault)

/-- When what is at a path was changed: a file was when it was written, and when a directory was is
given, since entries do not tell. -/
def changedAt? (fs : FileSystem) (changed : String → Nat) (path : String) : Option Nat :=
  match fs.entry path with
  | .ok (.file _ written) => some written
  | .ok (.directory _) => some (changed path)
  | _ => none

/-- The path of the report after a run that was started at a time.  The plugin may have written it
below the project instead; a report there that is older than the run belongs to another one. -/
def reportPath (fs : FileSystem) (root out : String) (started : Nat) (changed : String → Nat) :
    Launcher → String
  | .maven =>
    let primary := Path.join out reportFile
    let below := Path.join (Path.join root "target") reportFile
    if !fs.hasFile primary && (changedAt? fs changed below).any (started ≤ ·) then below
    else primary
  | .auto | .cli | .docker => Path.join out reportFile

/-- How many lines of the error output a message shows. -/
def shownErrorLines : Nat := 5

/-- The last lines of a text that are not blank. -/
def lastLines (text : String) : String :=
  let lines := (Text.lines text).filter fun line => !Text.isBlankText line
  " | ".intercalate (lines.drop (lines.length - shownErrorLines))

/-- The wording of a fault. -/
def LaunchFault.message : LaunchFault → String
  | .unresolvedAuto => "auto is resolved before launching"
  | .noOutputDirectory path fault => "failed to create " ++ path ++ ": " ++ fault.message
  | .unresolved root fault => "cannot resolve " ++ root ++ ": " ++ fault.message
  | .timedOut limit =>
    "timed out after " ++ Run.limitLabel limit ++ ": deadline has elapsed"
  | .notStarted fault => "failed to start scanner: " ++ fault.message
  | .failed finish errorOutput =>
    "exited with " ++ finish.label ++ ": " ++ lastLines errorOutput
  | .noReport path fault => "no report at " ++ path ++ ": " ++ fault.message
  | .invalid reason => invalidReport ++ ": " ++ reason

/-- What one way to start the scanner yields, and the files afterwards. -/
structure Attempt where
  result : Except LaunchFault (List Vulnerability)
  files : FileSystem

/-- The findings after the scanner has ended: a report counts even if the scanner failed. -/
def collect (fs : FileSystem) (path : String) (finish : Finish) (errorOutput : String) :
    Except LaunchFault (List Vulnerability) :=
  if !finish.isSuccess && !fs.hasFile path then .error (.failed finish errorOutput)
  else
    match fs.readText path with
    | .error fault => .error (.noReport path fault)
    | .ok text => (findings text).mapError .invalid

/-- Starts the scanner with an output directory that exists. -/
def attemptIn (programs : Programs) (fs : FileSystem) (config : ScannerConfig)
    (root out : String) (changed : String → Nat) (launcher : Launcher) : Attempt :=
  match command fs config root out launcher with
  | .error fault => ⟨.error fault, fs⟩
  | .ok command =>
    match Run.of programs fs config.timeoutSeconds command with
    | .notStarted fault => ⟨.error (.notStarted fault), fs⟩
    | .timedOut files => ⟨.error (.timedOut config.timeoutSeconds), files⟩
    | .ended files finish errorOutput =>
      let report := reportPath files root out fs.now changed launcher
      ⟨collect files report finish errorOutput, files⟩

/-- Starts the scanner in one way.  The output directory `name` is made below `temporary` before
and removed after; if it cannot be made, the directories that were made on the way to it stay. -/
def attempt (programs : Programs) (fs : FileSystem) (config : ScannerConfig)
    (root temporary name : String) (changed : String → Nat) (launcher : Launcher) : Attempt :=
  let out := Path.join temporary name
  match fs.makeDirectories out with
  | .error fault => ⟨.error (.noOutputDirectory out fault), fs.afterDirectories out⟩
  | .ok made =>
    let result := attemptIn programs made config root out changed launcher
    { result with files := result.files.remove temporary name }

/-- The name of the output directory of each attempt. -/
abbrev OutputNames := Launcher → String

/-- One name may serve all attempts, since each of them removes its directory. -/
instance : Coe String OutputNames := ⟨fun name _ => name⟩

/-- Tries ways to start the scanner until one succeeds. -/
def tryAll (programs : Programs) (config : ScannerConfig) (root temporary : String)
    (names : OutputNames) (changed : String → Nat) (fs : FileSystem) (errors : List String) :
    List Launcher → DependencyOutcome × FileSystem
  | [] => (⟨none, [], errors⟩, fs)
  | launcher :: rest =>
    let tried := attempt programs fs config root temporary (names launcher) changed launcher
    match tried.result with
    | .ok vulnerabilities => (⟨some launcher.label, vulnerabilities, errors⟩, tried.files)
    | .error fault =>
      let message := launcher.label ++ ": " ++ fault.message
      tryAll programs config root temporary names changed tried.files (errors ++ [message]) rest

/-- Scans the dependencies of a project. -/
def scan (programs : Programs) (fs : FileSystem) (config : ScannerConfig)
    (root temporary : String) (names : OutputNames) (changed : String → Nat := fun _ => 0) :
    DependencyOutcome × FileSystem :=
  tryAll programs config root temporary names changed fs [] (Launcher.allowed fs config root)

end Dependency
end CodeAudit
