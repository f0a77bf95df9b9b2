import CodeAudit.Config.Basic
import CodeAudit.Files.Record
import CodeAudit.Packaging.Package
import CodeAudit.Program.Run

/-!
# Packaging a codebase

An external program is asked first to bundle the codebase into a scratch file.  If it cannot be
started, takes too long, fails, or leaves no text that is not blank, the built-in packager
concatenates the files until the budget of characters is used up.
-/

namespace CodeAudit
namespace Packaging

/-- Why the external program yields no text. -/
inductive ExternalFault where
  | notStarted (fault : StartFault)
  | timedOut
  | failed (finish : Finish) (errorOutput : String)
  | unreadable (fault : FileFault)

/-- The command of the external program. -/
def command (config : PackagerConfig) (root scratch : String) : Command where
  program := config.command
  arguments := [root, "--output", scratch, "--style", "plain"]
  directory := none

/-- The files after the scratch file was to be removed; what cannot be removed stays. -/
def discard (files : FileSystem) (scratch : String) : FileSystem :=
  (files.removeFile scratch).toOption.getD files

/-- Runs the external program.  The scratch file `name` in the directory `temporary` is discarded
when the program fails and when its text has been read. -/
def runExternal (programs : Programs) (fs : FileSystem) (config : PackagerConfig)
    (root temporary name : String) : Except ExternalFault String × FileSystem :=
  let scratch := Path.join temporary name
  match Run.of programs fs config.timeoutSeconds (command config root scratch) with
  | .notStarted fault => (.error (.notStarted fault), fs)
  | .timedOut files => (.error .timedOut, files)
  | .ended files finish errorOutput =>
    if finish.isSuccess then
      match files.readText scratch with
      | .ok content => (.ok content, discard files scratch)
      | .error fault => (.error (.unreadable fault), files)
    else (.error (.failed finish errorOutput), discard files scratch)

/-- At most the first characters of a text, and whether any were left out. -/
def fit (budget : Nat) (content : String) : String × Bool :=
  if content.length ≤ budget then (content, false) else (Text.cut content budget, true)

/-- The list of all files at the head of a bundle. -/
def listing (files : List FileRecord) : String :=
  "Directory structure:\n"
    ++ String.join (files.map fun file => "  " ++ file.relativePath ++ "\n")

/-- What stands in front of a file in a bundle. -/
def heading (file : FileRecord) : String :=
  "\n================\nFile: " ++ file.relativePath ++ "\n================\n"

/-- The headings and the contents of the files that can be read. -/
def parts (read : ReadFile) (files : List FileRecord) : List (String × String) :=
  files.filterMap fun file => (read file).map fun body => (heading file, body)

/-- Appends parts to a bundle of `used` characters while they fit the budget; of the first part that
does not fit only the beginning is taken, unless not even its heading fits. -/
def appendParts (budget used : Nat) : List (String × String) → String × Bool
  | [] => ("", false)
  | (heading, body) :: rest =>
    let needed := heading.length + body.length
    if budget < used + needed then
      let room := budget - (used + heading.length)
      (if 0 < room then heading ++ Text.cut body room else "", true)
    else
      let (more, truncated) := appendParts budget (used + needed) rest
      (heading ++ body ++ more, truncated)

/-- The bundle of the built-in packager. -/
def manual (budget : Nat) (read : ReadFile) (files : List FileRecord) : Package :=
  let head := listing files
  let (more, truncated) := appendParts budget head.length (parts read files)
  let content := head ++ more
  if budget < head.length then ⟨(fit budget content).1, .manual, true⟩
  else ⟨content, .manual, truncated⟩

/-- Bundles a codebase. -/
def package (programs : Programs) (fs : FileSystem) (config : PackagerConfig)
    (read : ReadFile) (root temporary name : String) (files : List FileRecord) :
    Package × FileSystem :=
  let (output, fs) := runExternal programs fs config root temporary name
  match output with
  | .ok content =>
    if Text.isBlankText content then (manual config.maxContextChars read files, fs)
    else
      let (content, truncated) := fit config.maxContextChars content
      (⟨content, .external, truncated⟩, fs)
  | .error _ => (manual config.maxContextChars read files, fs)

end Packaging
end CodeAudit
