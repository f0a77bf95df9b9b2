import CodeAudit.Files.System
import CodeAudit.Json.Value

/-!
# Saving a report

A report is saved as two files side by side, one with its JSON text and one with its page.  Their
common stem holds the local time, to the second.
-/

namespace CodeAudit
namespace Report

open Json

/-- The kinds of reports, by how their file names begin. -/
inductive Kind where
  | security
  | migration
  | cloud
  deriving DecidableEq, Inhabited

/-- How the file names of a kind of report begin. -/
def Kind.stem : Kind → String
  | .security => "security_scan"
  | .migration => "migration_plan"
  | .cloud => "cloud_readiness"

/-- The paths of a saved report. -/
structure Saved where
  jsonPath : String
  markdownPath : String
  deriving DecidableEq, Inhabited

/-- Why a report cannot be saved. -/
inductive SaveFault where
  | noDirectory (path : String) (fault : FileFault)
  | unwritable (path : String) (fault : FileFault)
  deriving DecidableEq

/-- The wording of a fault. -/
def SaveFault.message : SaveFault → String
  | .noDirectory path _ => "failed to create output directory " ++ path
  | .unwritable path _ => "failed to write " ++ path

/-- Writes one file of a report. -/
def writePart (medium : Medium) (fs : FileSystem) (path text : String) :
    Except SaveFault Unit × FileSystem :=
  let (result, files) := fs.writeOn medium path text.toUTF8
  (result.mapError (.unwritable path), files)

/-- Saves a report; `stamp` is the local time.  The files that were changed come with the result,
also when a step fails. -/
def save (fs : FileSystem) (directory stem stamp : String) (value : Value) (page : String)
    (medium : Medium := .sound) : Except SaveFault Saved × FileSystem :=
  match fs.makeDirectories directory with
  | .error fault => (.error (.noDirectory directory fault), fs.afterDirectories directory)
  | .ok made =>
    let path := Path.join directory (stem ++ "_" ++ stamp)
    match writePart medium made (path ++ ".json") value.pretty with
    | (.error fault, written) => (.error fault, written)
    | (.ok (), written) =>
      match writePart medium written (path ++ ".md") page with
      | (.error fault, finished) => (.error fault, finished)
      | (.ok (), finished) => (.ok ⟨path ++ ".json", path ++ ".md"⟩, finished)

end Report
end CodeAudit
