import CodeAudit.Config.Basic
import CodeAudit.Toml.Document

/-!
# Configuration from TOML

A section is a table of settings, or a list of them in the order of declaration.  A setting that is
absent keeps its default, an unknown one is ignored, and one of the wrong kind is refused.  A date
in place of a section holds no setting.
-/

namespace CodeAudit

namespace Toml

/-- A text. -/
def asText? : Toml → Option String
  | .text content => some content
  | _ => none

/-- A truth value. -/
def asTruth? : Toml → Option Bool
  | .truth value => some value
  | _ => none

/-- A count of at most `bits` binary digits. -/
def asCount? (bits : Nat) : Toml → Option Nat
  | .integer (.ofNat n) => if n < Nat.pow 2 bits then some n else none
  | _ => none

/-- A number of 32 bits. -/
def asSingle? : Toml → Option Floating
  | .integer value => some (BinaryFormat.single.round value)
  | .real value => some (ModelConfig.toSingle value)
  | _ => none

/-- A list of texts. -/
def asTexts? : Toml → Option (List String)
  | .list items => items.mapM asText?
  | .tables items => if items.isEmpty then some [] else none
  | _ => none

/-- Whether a value holds nothing. -/
def isHollow : Toml → Bool
  | .list items => items.isEmpty
  | .table _ members => members.isEmpty
  | .tables items => items.isEmpty
  | _ => false

/-- The name of a strategy: a text, or the only key of a table that holds nothing. -/
def asStrategy? : Toml → Option Strategy
  | .text name => Strategy.tagged? name
  | .table _ [(name, value)] => if value.isHollow then Strategy.tagged? name else none
  | _ => none

/-- The settings of a section that are present, by name. -/
def settings? (names : List String) : Toml → Option Members
  | .table _ members => some members
  | .list items => some (names.zip items)
  | .tables items => some (names.zip (items.map fun members => .table .header members))
  | .moment => some []
  | _ => none

/-- A setting, or its default if it is absent. -/
def setting? {α : Type} (settings : Members) (name : String) (default : α)
    (decode : Toml → Option α) : Option α :=
  match settings.lookup name with
  | none => some default
  | some value => decode value

end Toml

open Toml

namespace ModelConfig

/-- The settings of a section. -/
def ofToml? (section' : Toml) : Option ModelConfig := do
  let s ← settings?
    ["api_key", "base_url", "model", "max_tokens", "temperature", "timeout_seconds",
     "max_file_chars"] section'
  return {
    apiKey := ← setting? s "api_key" default.apiKey fun value => value.asText?.map some
    baseUrl := ← setting? s "base_url" default.baseUrl asText?
    model := ← setting? s "model" default.model asText?
    maxTokens := ← setting? s "max_tokens" default.maxTokens (asCount? 32)
    temperature := ← setting? s "temperature" default.temperature asSingle?
    timeoutSeconds := ← setting? s "timeout_seconds" default.timeoutSeconds (asCount? 64)
    maxFileChars := ← setting? s "max_file_chars" default.maxFileChars (asCount? 64) }

end ModelConfig

namespace ScannerConfig

/-- The settings of a section. -/
def ofToml? (section' : Toml) : Option ScannerConfig := do
  let s ← settings? ["enabled", "strategy", "timeout_seconds", "nvd_api_key"] section'
  return {
    enabled := ← setting? s "enabled" default.enabled asTruth?
    strategy := ← setting? s "strategy" default.strategy asStrategy?
    timeoutSeconds := ← setting? s "timeout_seconds" default.timeoutSeconds (asCount? 64)
    nvdApiKey := ← setting? s "nvd_api_key" default.nvdApiKey fun value =>
      value.asText?.map some }

end ScannerConfig

namespace PackagerConfig

/-- The settings of a section. -/
def ofToml? (section' : Toml) : Option PackagerConfig := do
  let s ← settings? ["command", "timeout_seconds", "max_context_chars"] section'
  return {
    command := ← setting? s "command" default.command asText?
    timeoutSeconds := ← setting? s "timeout_seconds" default.timeoutSeconds (asCount? 64)
    maxContextChars := ← setting? s "max_context_chars" default.maxContextChars (asCount? 64) }

end PackagerConfig

namespace Config

/-- The settings of a document. -/
def ofMembers? (s : Members) : Option Config := do
  return {
    fileExtensions := ← setting? s "file_extensions" default.fileExtensions asTexts?
    extraExcludedDirs := ← setting? s "extra_excluded_dirs" default.extraExcludedDirs asTexts?
    maxFileSize := ← setting? s "max_file_size" default.maxFileSize (asCount? 64)
    outputDir := ← setting? s "output_dir" default.outputDir asText?
    model := ← setting? s "llm" default.model ModelConfig.ofToml?
    scanner := ← setting? s "scanner" default.scanner ScannerConfig.ofToml?
    packager := ← setting? s "packager" default.packager PackagerConfig.ofToml? }

/-- The settings that the text of a configuration file stands for. -/
def ofText? (text : String) : Option Config := (Toml.parse text).bind ofMembers?

end Config

end CodeAudit
