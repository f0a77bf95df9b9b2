import CodeAudit.Config.Decode
import CodeAudit.Config.Template
import CodeAudit.Files.System

/-!
# Loading the configuration

The configuration comes from an explicit file, or from a file in the home directory if there is
one, or is the default.  Environment variables are applied last: a key of the file wins over them,
an endpoint or a model of theirs wins over the file.
-/

namespace CodeAudit

/-- The environment variables that a program sees. -/
abbrev Environment := String → Option String

/-- Why a configuration cannot be loaded. -/
inductive ConfigFault where
  | unreadable (path : String)
  | invalid (path : String)
  | noHome
  deriving DecidableEq

/-- The wording of a fault. -/
def ConfigFault.message : ConfigFault → String
  | .unreadable path => "failed to read config file " ++ path
  | .invalid path => "invalid config file " ++ path
  | .noHome => "Could not determine home directory"

namespace Config

/-- The configuration in a file. -/
def fromFile (fs : FileSystem) (path : String) : Except ConfigFault Config :=
  match fs.readText path with
  | .error _ => .error (.unreadable path)
  | .ok text =>
    match ofText? text with
    | none => .error (.invalid path)
    | some config => .ok config

/-- The path of the configuration file in the home directory. -/
def homePath (environment : Environment) : Except ConfigFault String :=
  match (environment "HOME").or (environment "USERPROFILE") with
  | none => .error .noHome
  | some home => .ok (Path.join home ".codewarden.toml")

/-- A variable of the environment that is set and not blank. -/
def nonBlank (environment : Environment) (name : String) : Option String :=
  (environment name).filter fun value => !Text.isBlankText value

/-- Whether there is a key that is not blank. -/
def hasKey (key : Option String) : Bool := key.any fun key => !Text.isBlankText key

/-- The settings of the model after the environment has been applied. -/
def modelWith (environment : Environment) (c : ModelConfig) : ModelConfig :=
  { c with
    apiKey :=
      if hasKey c.apiKey then c.apiKey
      else
        (nonBlank environment "CODEWARDEN_API_KEY").or (nonBlank environment "OPENAI_API_KEY")
    baseUrl := (nonBlank environment "CODEWARDEN_BASE_URL").getD c.baseUrl
    model := (nonBlank environment "CODEWARDEN_MODEL").getD c.model }

/-- The settings of the scanner after the environment has been applied. -/
def scannerWith (environment : Environment) (c : ScannerConfig) : ScannerConfig :=
  { c with nvdApiKey := c.nvdApiKey.or (nonBlank environment "NVD_API_KEY") }

/-- The configuration after the environment has been applied. -/
def withEnvironment (environment : Environment) (c : Config) : Config :=
  { c with model := modelWith environment c.model, scanner := scannerWith environment c.scanner }

/-- The configuration of a file, or else of the home directory, or else the default. -/
def stored (fs : FileSystem) (environment : Environment) (explicit : Option String) :
    Except ConfigFault Config :=
  match explicit with
  | some path => fromFile fs path
  | none => do
    let path ← homePath environment
    if fs.hasEntry path then fromFile fs path else return default

/-- Loads the configuration. -/
def load (fs : FileSystem) (environment : Environment) (explicit : Option String) :
    Except ConfigFault Config :=
  (stored fs environment explicit).map (withEnvironment environment)

end Config

end CodeAudit
