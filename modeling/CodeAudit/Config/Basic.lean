import CodeAudit.Json.Reader
import CodeAudit.Finding.Record

/-!
# Configuration

What a user may set: which files are audited, where reports go, and the settings of the model, of
the dependency scanner and of the packager.  Every setting has a default.
-/

namespace CodeAudit

open Json

/-- Which launcher of the dependency scanner is used. -/
inductive Strategy where
  | auto
  | maven
  | cli
  | docker
  deriving DecidableEq, Inhabited

namespace Strategy

/-- All strategies. -/
def all : List Strategy := [auto, maven, cli, docker]

/-- The name in a configuration. -/
def tag : Strategy → String
  | auto => "auto"
  | maven => "maven"
  | cli => "cli"
  | docker => "docker"

/-- The strategy with exactly this name. -/
def tagged? (tag : String) : Option Strategy := all.find? fun strategy => strategy.tag == tag

/-- The JSON value of a strategy. -/
def toValue (strategy : Strategy) : Value := .text strategy.tag

/-- Reads the name of a strategy. -/
def reader : Reader := Reader.label (all.map tag)

/-- The strategy of a value. -/
def ofValue? (value : Value) : Option Strategy := value.asText?.bind tagged?

end Strategy

/-- The settings of the model. -/
structure ModelConfig where
  apiKey : Option String
  baseUrl : String
  model : String
  maxTokens : Nat
  /-- A number of 32 bits. -/
  temperature : Floating
  timeoutSeconds : Nat
  /-- How many characters of a file a review shows. -/
  maxFileChars : Nat
  deriving DecidableEq, Inhabited

/-- The settings of the dependency scanner. -/
structure ScannerConfig where
  enabled : Bool
  strategy : Strategy
  timeoutSeconds : Nat
  nvdApiKey : Option String
  deriving DecidableEq, Inhabited

/-- The settings of the packager. -/
structure PackagerConfig where
  command : String
  timeoutSeconds : Nat
  maxContextChars : Nat
  deriving DecidableEq, Inhabited

/-- All settings. -/
structure Config where
  fileExtensions : List String
  /-- Names of directories that are left out besides the usual ones. -/
  extraExcludedDirs : List String
  maxFileSize : Nat
  outputDir : String
  model : ModelConfig
  scanner : ScannerConfig
  packager : PackagerConfig
  deriving DecidableEq, Inhabited

namespace ModelConfig

/-- The settings of the model that hold unless others are given. -/
def default : ModelConfig where
  apiKey := none
  baseUrl := "https://api.openai.com/v1"
  model := "gpt-4o-mini"
  maxTokens := 4000
  temperature := BinaryFormat.single.round (1 / 10)
  timeoutSeconds := 60
  maxFileChars := 12000

/-- The JSON value of the settings. -/
def toValue (c : ModelConfig) : Value :=
  .object
    [("api_key", textValue? c.apiKey), ("base_url", .text c.baseUrl), ("model", .text c.model),
     ("max_tokens", .ofCount c.maxTokens), ("temperature", .single c.temperature),
     ("timeout_seconds", .ofCount c.timeoutSeconds), ("max_file_chars", .ofCount c.maxFileChars)]

/-- Reads the settings. -/
def reader : Reader :=
  Reader.record "LLMConfig"
    [.defaulted "api_key" (textValue? default.apiKey) (Reader.optional Reader.text),
     .defaulted "base_url" (.text default.baseUrl) Reader.text,
     .defaulted "model" (.text default.model) Reader.text,
     .defaulted "max_tokens" (.ofCount default.maxTokens) (Reader.count 32),
     .defaulted "temperature" (.real default.temperature) Reader.real,
     .defaulted "timeout_seconds" (.ofCount default.timeoutSeconds) (Reader.count 64),
     .defaulted "max_file_chars" (.ofCount default.maxFileChars) (Reader.count 64)]

/-- A number rounded to 32 bits. -/
def toSingle (x : Floating) : Floating :=
  match x with
  | .num value => BinaryFormat.single.round value
  | other => other

/-- The settings of a value. -/
def ofValue? (value : Value) : Option ModelConfig := do
  return {
    apiKey := ← value.field? "api_key" (Value.asOption? Value.asText?)
    baseUrl := ← value.field? "base_url" Value.asText?
    model := ← value.field? "model" Value.asText?
    maxTokens := ← value.field? "max_tokens" Value.asCount?
    temperature := ← value.field? "temperature" fun x => x.asReal?.map toSingle
    timeoutSeconds := ← value.field? "timeout_seconds" Value.asCount?
    maxFileChars := ← value.field? "max_file_chars" Value.asCount? }

end ModelConfig

namespace ScannerConfig

/-- The settings of the scanner that hold unless others are given. -/
def default : ScannerConfig where
  enabled := true
  strategy := .auto
  timeoutSeconds := 600
  nvdApiKey := none

/-- The JSON value of the settings. -/
def toValue (c : ScannerConfig) : Value :=
  .object
    [("enabled", .truth c.enabled), ("strategy", c.strategy.toValue),
     ("timeout_seconds", .ofCount c.timeoutSeconds), ("nvd_api_key", textValue? c.nvdApiKey)]

/-- Reads the settings. -/
def reader : Reader :=
  Reader.record "ScannerConfig"
    [.defaulted "enabled" (.truth default.enabled) Reader.truth,
     .defaulted "strategy" default.strategy.toValue Strategy.reader,
     .defaulted "timeout_seconds" (.ofCount default.timeoutSeconds) (Reader.count 64),
     .defaulted "nvd_api_key" (textValue? default.nvdApiKey) (Reader.optional Reader.text)]

/-- The settings of a value. -/
def ofValue? (value : Value) : Option ScannerConfig := do
  return {
    enabled := ← value.field? "enabled" Value.asTruth?
    strategy := ← value.field? "strategy" Strategy.ofValue?
    timeoutSeconds := ← value.field? "timeout_seconds" Value.asCount?
    nvdApiKey := ← value.field? "nvd_api_key" (Value.asOption? Value.asText?) }

end ScannerConfig

namespace PackagerConfig

/-- The settings of the packager that hold unless others are given. -/
def default : PackagerConfig where
  command := "repomix"
  timeoutSeconds := 120
  maxContextChars := 60000

/-- The JSON value of the settings. -/
def toValue (c : PackagerConfig) : Value :=
  .object
    [("command", .text c.command), ("timeout_seconds", .ofCount c.timeoutSeconds),
     ("max_context_chars", .ofCount c.maxContextChars)]

/-- Reads the settings. -/
def reader : Reader :=
  Reader.record "PackagerConfig"
    [.defaulted "command" (.text default.command) Reader.text,
     .defaulted "timeout_seconds" (.ofCount default.timeoutSeconds) (Reader.count 64),
     .defaulted "max_context_chars" (.ofCount default.maxContextChars) (Reader.count 64)]

/-- The settings of a value. -/
def ofValue? (value : Value) : Option PackagerConfig := do
  return {
    command := ← value.field? "command" Value.asText?
    timeoutSeconds := ← value.field? "timeout_seconds" Value.asCount?
    maxContextChars := ← value.field? "max_context_chars" Value.asCount? }

end PackagerConfig

namespace Config

/-- The settings that hold unless others are given. -/
def default : Config where
  fileExtensions :=
    ["java", "kt", "scala", "groovy", "py", "js", "jsx", "ts", "tsx", "go", "rs", "cs", "php",
     "rb", "c", "cpp", "h", "jsp", "xml", "properties", "yaml", "yml", "json", "toml", "html",
     "sql", "sh"]
  extraExcludedDirs := []
  maxFileSize := 1024 * 1024
  outputDir := "./reports"
  model := .default
  scanner := .default
  packager := .default

/-- The JSON value of the settings. -/
def toValue (c : Config) : Value :=
  .object
    [("file_extensions", .ofTexts c.fileExtensions),
     ("extra_excluded_dirs", .ofTexts c.extraExcludedDirs),
     ("max_file_size", .ofCount c.maxFileSize), ("output_dir", .text c.outputDir),
     ("llm", c.model.toValue), ("scanner", c.scanner.toValue), ("packager", c.packager.toValue)]

/-- Reads the settings. -/
def reader : Reader :=
  Reader.record "Config"
    [.defaulted "file_extensions" (.ofTexts default.fileExtensions) (Reader.list Reader.text),
     .defaulted "extra_excluded_dirs" (.ofTexts default.extraExcludedDirs)
       (Reader.list Reader.text),
     .defaulted "max_file_size" (.ofCount default.maxFileSize) (Reader.count 64),
     .defaulted "output_dir" (.text default.outputDir) Reader.text,
     .defaulted "llm" default.model.toValue ModelConfig.reader,
     .defaulted "scanner" default.scanner.toValue ScannerConfig.reader,
     .defaulted "packager" default.packager.toValue PackagerConfig.reader]

/-- The settings of a value. -/
def ofValue? (value : Value) : Option Config := do
  return {
    fileExtensions := ← value.field? "file_extensions" (Value.asListOf? Value.asText?)
    extraExcludedDirs := ← value.field? "extra_excluded_dirs" (Value.asListOf? Value.asText?)
    maxFileSize := ← value.field? "max_file_size" Value.asCount?
    outputDir := ← value.field? "output_dir" Value.asText?
    model := ← value.field? "llm" ModelConfig.ofValue?
    scanner := ← value.field? "scanner" ScannerConfig.ofValue?
    packager := ← value.field? "packager" PackagerConfig.ofValue? }

end Config

end CodeAudit
