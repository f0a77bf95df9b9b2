import CodeAudit.CommandLine.Arguments

/-!
# Help

The help of a command says what it does and lists its settings, one per line, with the descriptions
in a column of their own.
-/

namespace CodeAudit
namespace CommandLine

/-- The name of the program. -/
def programName : String := "codewarden"

/-- What the program does. -/
def programAbout : String :=
  "Security, migration and cloud readiness audits for legacy codebases"

/-- What a command does. -/
def Verb.about : Verb → String
  | scan => "Scan a project for security vulnerabilities"
  | migrate => "Plan a migration away from legacy frameworks"
  | cloud => "Assess how ready a project is to run in the cloud"
  | config => "Generate a documented configuration file"
  | help => "Print this message or the help of the given subcommand(s)"

/-- What the path of a command leads to. -/
def Verb.pathAbout : Verb → String
  | scan => "Project directory to scan"
  | migrate => "Project directory to analyze"
  | cloud => "Project directory to assess"
  | config | help => ""

/-- What a setting means for a command. -/
def Setting.about (setting : Setting) (verb? : Option Verb) : String :=
  match setting with
  | config => "Configuration file path (defaults to ~/.codewarden.toml)"
  | verbose => "Enable debug logging"
  | debugModel => "Log LLM requests and responses"
  | output =>
    if verb? = some .config then
      "Output path for the config file (defaults to ~/.codewarden.toml)"
    else "Output directory for reports"
  | skipDependencies => "Skip the dependency vulnerability scan"
  | skipModel => "Heuristics only, no LLM calls"
  | target => "Framework to migrate to [default: \"" ++ defaultTarget ++ "\"]"
  | provider =>
    "Target cloud provider [default: aws] [possible values: "
      ++ ", ".intercalate (Provider.all.map Provider.tag) ++ "]"
  | help => "Print help"
  | version => "Print version"

/-- How help writes a setting. -/
def Setting.usage (setting : Setting) : String :=
  (match setting.letter? with
    | some letter => .ofList ['-', letter] ++ ", "
    | none => "    ")
    ++ "--" ++ setting.name
    ++ (if setting.takesValue then " <" ++ setting.name.toUpper ++ ">" else "")

/-- Rows whose second column is aligned. -/
def aligned (rows : List (String × String)) : List String :=
  let width := (rows.map fun row => row.1.length).foldl max 0
  rows.map fun (left, right) =>
    "  " ++ left ++ .ofList (List.replicate (width - left.length) ' ') ++ "  " ++ right

/-- The rows of settings. -/
def settingRows (side : Side) : List String :=
  aligned (side.settings.map fun setting => (setting.usage, setting.about side.verb?))

/-- The help of the program, or of a command. -/
def helpLines : Option Verb → List String
  | none =>
    [programAbout, "", "Usage: " ++ programName ++ " [OPTIONS] <COMMAND>", "", "Commands:"]
      ++ aligned (Verb.all.map fun verb => (verb.name, verb.about))
      ++ ["", "Options:"] ++ settingRows .before
  | some verb =>
    let arguments : List (String × String) :=
      if verb.takesPath then [("<PATH>", verb.pathAbout)]
      else if verb = .help then [("[COMMAND]...", "Print help for the subcommand(s)")]
      else []
    let usage := "Usage: " ++ programName ++ " " ++ verb.name ++ " [OPTIONS]"
      ++ String.join (arguments.map fun row => " " ++ row.1)
    [verb.about, "", usage]
      ++ (if arguments.isEmpty then [] else ["", "Arguments:"] ++ aligned arguments)
      ++ ["", "Options:"] ++ settingRows (.after verb)

/-- The version of the program. -/
def versionLine (version : String) : String := programName ++ " " ++ version

end CommandLine
end CodeAudit
