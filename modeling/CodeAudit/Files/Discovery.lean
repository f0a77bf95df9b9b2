import CodeAudit.Config.Basic
import CodeAudit.Files.Ignore
import CodeAudit.Files.Language
import CodeAudit.Files.Record
import CodeAudit.Files.System

/-!
# Discovering the files of a project

The walk goes through the directories below the project.  It leaves out directories with a
well-known or a configured name and everything that ignore files say is to be ignored, and it
follows no link.  Of the files that it meets those are kept that are not too large and have one of
the extensions, or a well-known name.  The result is ordered by relative path.
-/

namespace CodeAudit
namespace Discovery

/-- Names of directories that are never looked into. -/
def excludedDirectories : List String :=
  ["node_modules", ".git", "target", "build", "dist", "__pycache__", ".venv", "venv", ".gradle",
   ".idea", "vendor", ".mvn"]

/-- Whether a directory is left out because of its name. -/
def isExcluded (extra : List String) (name : String) : Bool :=
  excludedDirectories.contains name || extra.contains name

/-- A file that the walk meets: the names below the project, and its size. -/
structure Met where
  names : List String
  size : Nat
  deriving DecidableEq, Inhabited

/-- The rules of the directories around an entry, from the innermost one outwards, each with the
names from its directory to the entry's directory. -/
abbrev Surroundings := List (IgnoreLevel × List String)

/-- The surroundings with one more name below them. -/
def Surroundings.below (around : Surroundings) (name : String) : Surroundings :=
  around.map fun (level, names) => (level, names ++ [name])

mutual

/-- The files below an entry.  `levelAt` gives the rules of a directory below the project, `above`
holds the names of the entry, and `around` its surroundings. -/
def walkEntry (extra : List String) (levelAt : List String → IgnoreLevel)
    (above : List String) (around : Surroundings) : Entry → List Met
  | .link _ => []
  | .file content _ =>
    if IgnoreLevel.ignores around false then [] else [⟨above, content.size⟩]
  | .directory entries =>
    if isExcluded extra (above.getLastD "") || IgnoreLevel.ignores around true then []
    else walkEntries extra levelAt above ((levelAt above, []) :: around) entries

/-- The files below the entries of a directory. -/
def walkEntries (extra : List String) (levelAt : List String → IgnoreLevel)
    (above : List String) (around : Surroundings) : List (String × Entry) → List Met
  | [] => []
  | (name, entry) :: rest =>
    walkEntry extra levelAt (above ++ [name]) (around.below name) entry
      ++ walkEntries extra levelAt above around rest

end

/-- The rules in a file, if it can be read. -/
def rulesIn (fs : FileSystem) (path : String) : List IgnoreRule :=
  match fs.readBytes path with
  | .ok content => IgnoreRule.ofFile content
  | .error _ => []

/-- The first line of a file, if it can be read and is text. -/
def firstLine? (fs : FileSystem) (path : String) : Option String :=
  match fs.readBytes path with
  | .ok content =>
    if content.isEmpty then none else (IgnoreRule.textLines content).head?.map String.ofList
  | .error _ => none

/-- What a text holds after its beginning, if it begins so. -/
def textAfter? (beginning text : String) : Option String :=
  if beginning.toList.isPrefixOf text.toList then
    some (.ofList (text.toList.drop beginning.length))
  else none

/-- The directory in which version control keeps what belongs to a tree.  A file in its place names
another directory, and a file there the one that several trees share. -/
def controlDirectory? (fs : FileSystem) (directory : String) : Option String := do
  let place := Path.join directory ".git"
  if fs.hasFile place then
    let named ← textAfter? "gitdir: " (← firstLine? fs place)
    let shared ← firstLine? fs (Path.join named "commondir")
    return if shared.toList.head? = some '.' then Path.join named shared else shared
  else return place

/-- The names of what marks the top of a tree under version control. -/
def topMarkers : List String := [".git", ".jj"]

/-- The rules that a directory brings. -/
def levelOf (fs : FileSystem) (directory : String) : IgnoreLevel where
  own := rulesIn fs (Path.join directory ".ignore")
  versioned := rulesIn fs (Path.join directory ".gitignore")
  excluded :=
    match controlDirectory? fs directory with
    | some control => rulesIn fs (Path.join control "info/exclude")
    | none => []
  isTop := topMarkers.any fun marker => fs.hasEntry (Path.join directory marker)

/-- The path of names that begin at the root of the file system. -/
def absolutePath (names : List String) : String := "/" ++ "/".intercalate names

/-- The levels of the directories above the project, from the nearest one to the root of the file
system; `below` holds the names from the directory at hand to the project. -/
def levelsAbove (fs : FileSystem) (below : List String) : (reversed : List String) → Surroundings
  | [] => []
  | name :: rest =>
    (levelOf fs (absolutePath rest.reverse), name :: below) :: levelsAbove fs (name :: below) rest

/-- The files that the walk meets below a project. -/
def walk (fs : FileSystem) (extra : List String) (root : String) : List Met :=
  match fs.locate root with
  | .arrived trail =>
    let names := FileSystem.trailNames trail
    let levelAt (below : List String) := levelOf fs (absolutePath (names ++ below))
    let around := levelsAbove fs [] names.reverse
    walkEntries extra levelAt [] ((levelAt [], []) :: around)
      ((trail.head?.map Prod.snd).getD fs.root).entries
  | _ => []

/-- What is selected among the files. -/
structure Selection where
  /-- Lower-case extensions; none of them selects every file. -/
  extensions : List String
  extraExcludedDirs : List String
  maxFileSize : Nat

/-- The selection of a configuration: extensions may be written with dots and in capitals. -/
def Selection.of (config : Config) : Selection where
  extensions := config.fileExtensions.map fun extension =>
    Text.lowerCase (.ofList (extension.toList.dropWhile (· = '.')))
  extraExcludedDirs := config.extraExcludedDirs
  maxFileSize := config.maxFileSize

/-- The name of a file that the walk met. -/
def Met.name (met : Met) : String := met.names.getLastD ""

/-- The extension of a file, in lower case. -/
def Met.extension (met : Met) : Option String := (Path.extensionOf? met.name).map Text.lowerCase

/-- Whether a file is selected by its extension or its name. -/
def Selection.admits (selection : Selection) (met : Met) : Bool :=
  selection.extensions.isEmpty || met.extension.any selection.extensions.contains
    || Language.isWellKnown met.name

/-- Whether a file is selected. -/
def Selection.selects (selection : Selection) (met : Met) : Bool :=
  decide (met.size ≤ selection.maxFileSize) && selection.admits met

/-- The record of a file below a project. -/
def record (root : String) (met : Met) : FileRecord where
  path := met.names.foldl Path.join root
  relativePath :=
    .ofList (("/".intercalate met.names).toList.map fun c => if c = '\\' then '/' else c)
  size := met.size
  extension := met.extension
  language := Language.detect met.name met.extension

/-- The files of a project, ordered by relative path. -/
def discover (fs : FileSystem) (config : Config) (root : String) : List FileRecord :=
  let selection := Selection.of config
  (((walk fs selection.extraExcludedDirs root).filter selection.selects).map
    (record root)).mergeSort fun a b => !decide (b.relativePath < a.relativePath)

end Discovery
end CodeAudit
