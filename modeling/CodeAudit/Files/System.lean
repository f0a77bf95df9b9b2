import CodeAudit.Files.Entry
import CodeAudit.Files.Path

/-!
# The file system

The file system is a tree of entries, a working directory and a clock.  Symbolic links are followed
on the way to an entry, at most forty of them.  A name takes at most 255 bytes and a path fewer than
4096.  An operation that cannot be carried out says why and changes nothing, with one exception: once
a file is open, the medium may stop the write, and then the file holds what was written before.
-/

namespace CodeAudit

/-- Why an operation on the file system fails. -/
inductive FileFault where
  | missing
  | notDirectory
  | isDirectory
  | exists
  | tooManyLinks
  | tooLong
  | zeroCharacter
  | notText
  | noSpace
  | overQuota
  | tooLarge
  | damaged
  deriving DecidableEq

/-- The wording of a fault. -/
def FileFault.message : FileFault → String
  | .missing => "No such file or directory (os error 2)"
  | .notDirectory => "Not a directory (os error 20)"
  | .isDirectory => "Is a directory (os error 21)"
  | .exists => "File exists (os error 17)"
  | .tooManyLinks => "Too many levels of symbolic links (os error 40)"
  | .tooLong => "File name too long (os error 36)"
  | .zeroCharacter => "file name contained an unexpected NUL byte"
  | .notText => "stream did not contain valid UTF-8"
  | .noSpace => "No space left on device (os error 28)"
  | .overQuota => "Disk quota exceeded (os error 122)"
  | .tooLarge => "File too large (os error 27)"
  | .damaged => "Input/output error (os error 5)"

/-- A write that the medium stops: how many bytes were written before, and why it stops. -/
structure Stop where
  count : Nat
  fault : FileFault
  deriving DecidableEq

/-- Where a medium stops when bytes are written to a path, if it does. -/
abbrev Medium := (path : String) → (content : ByteArray) → Option Stop

/-- A medium that stops no write. -/
def Medium.sound : Medium := fun _ _ => none

/-- The entries of a machine, the directory in which relative paths begin, and the time. -/
structure FileSystem where
  root : Entry
  current : List String
  now : Nat
  deriving Inhabited

namespace FileSystem

/-- Where a walk stands: the names from the root and the entry, and the same for each directory
above it, the innermost one first. -/
abbrev Trail := List (String × Entry)

/-- How a walk that follows no link ends. -/
inductive Walk where
  | arrived (trail : Trail)
  | absent (trail : Trail) (name : String)
  | failed (fault : FileFault)
  | linked (trail : Trail) (target : String) (rest : List String)

/-- How many bytes a name can have. -/
def nameLimit : Nat := 255

/-- How many bytes a path must not reach. -/
def pathLimit : Nat := 4096

/-- What is wrong with the text of a path. -/
def textFault? (path : String) : Option FileFault :=
  if path.isEmpty then some .missing
  else if path.toList.contains '\x00' then some .zeroCharacter
  else if pathLimit ≤ path.utf8ByteSize then some .tooLong
  else none

/-- Walks along steps up to the first link. -/
def walk (root : Entry) (trail : Trail) : List String → Walk
  | [] => .arrived trail
  | step :: rest =>
    let top := (trail.head?.map Prod.snd).getD root
    match top with
    | .directory entries =>
      if step = "." then walk root trail rest
      else if step = ".." then walk root (trail.drop 1) rest
      else if nameLimit < step.utf8ByteSize then .failed .tooLong
      else
        match entries.lookup step with
        | none => if rest.isEmpty then .absent trail step else .failed .missing
        | some (.link target) => .linked trail target rest
        | some entry => walk root ((step, entry) :: trail) rest
    | _ => .failed .notDirectory

/-- Walks along steps and follows at most `links` links. -/
def follow (root : Entry) : (links : Nat) → Trail → List String → Walk
  | 0, _, _ => .failed .tooManyLinks
  | links + 1, trail, steps =>
    match walk root trail steps with
    | .linked trail target rest =>
      follow root links (if Path.isAbsolute target then [] else trail)
        (Path.steps target ++ rest)
    | other => other

/-- The names from the root to where a path begins. -/
def start (fs : FileSystem) (path : String) : List String :=
  if Path.isAbsolute path then [] else fs.current

/-- Walks along steps from the root and follows all links. -/
def reach (fs : FileSystem) (steps : List String) : Walk := follow fs.root 41 [] steps

/-- Walks to a path and follows all links. -/
def locate (fs : FileSystem) (path : String) : Walk :=
  match textFault? path with
  | some fault => .failed fault
  | none => fs.reach (fs.start path ++ Path.steps path)

/-- The entry at the end of a trail. -/
def reached (fs : FileSystem) (trail : Trail) : Entry :=
  (trail.head?.map Prod.snd).getD fs.root

/-- The entry at a path. -/
def entry (fs : FileSystem) (path : String) : Except FileFault Entry :=
  match fs.locate path with
  | .arrived trail => .ok (fs.reached trail)
  | .absent _ _ => .error .missing
  | .failed fault => .error fault
  | .linked _ _ _ => .error .tooManyLinks

/-- The names of a trail, from the root. -/
def trailNames (trail : Trail) : List String := (trail.map Prod.fst).reverse

/-- The path without links of an entry that exists. -/
def realPath? (fs : FileSystem) (path : String) : Option (List String) :=
  match fs.locate path with
  | .arrived trail => some (trailNames trail)
  | _ => none

/-- Whether a path leads to an entry. -/
def hasEntry (fs : FileSystem) (path : String) : Bool := (fs.entry path).isOk

/-- Whether a path leads to a directory. -/
def hasDirectory (fs : FileSystem) (path : String) : Bool :=
  match fs.entry path with
  | .ok (.directory _) => true
  | _ => false

/-- Whether a path leads to a file. -/
def hasFile (fs : FileSystem) (path : String) : Bool :=
  match fs.entry path with
  | .ok (.file _ _) => true
  | _ => false

/-- The bytes of a file. -/
def readBytes (fs : FileSystem) (path : String) : Except FileFault ByteArray := do
  match ← fs.entry path with
  | .file content _ => return content
  | _ => throw .isDirectory

/-- The text of a file. -/
def readText (fs : FileSystem) (path : String) : Except FileFault String := do
  let bytes ← fs.readBytes path
  match String.fromUTF8? bytes with
  | some text => return text
  | none => throw .notText

/-- The file system with other entries in a directory that is reached without links. -/
def changed (fs : FileSystem) (names : List String)
    (change : List (String × Entry) → List (String × Entry)) : FileSystem :=
  { fs with root := fs.root.changeAt change names }

/-- The directory in which the last part of a path is looked for, and this part; a path to the root
has no last part. -/
def lastPlace (fs : FileSystem) (path : String) : Except FileFault (Trail × String) :=
  match textFault? path with
  | some fault => .error fault
  | none =>
    match (Path.parts path).getLast? with
    | none => .error .exists
    | some last =>
      match fs.reach (fs.start path ++ (Path.parts path).dropLast) with
      | .arrived trail =>
        if (fs.reached trail).isDirectory then .ok (trail, last) else .error .notDirectory
      | .absent _ _ => .error .missing
      | .failed fault => .error fault
      | .linked _ _ _ => .error .tooManyLinks

/-- Puts a file with all its content at a path, in place of the file that was there.  A path that ends
in a slash asks for a directory, whatever is there. -/
def writeBytes (fs : FileSystem) (path : String) (content : ByteArray) :
    Except FileFault FileSystem :=
  let entry := Entry.file content fs.now
  if Path.endsInSlash path then
    match fs.lastPlace path with
    | .ok _ | .error .exists => .error .isDirectory
    | .error fault => .error fault
  else
    match fs.locate path with
    | .arrived (((name, .file _ _) : String × Entry) :: above) =>
      .ok (fs.changed (trailNames above) (Entry.setIn name entry))
    | .arrived _ => .error .isDirectory
    | .absent trail name => .ok (fs.changed (trailNames trail) (Entry.setIn name entry))
    | .failed fault => .error fault
    | .linked _ _ _ => .error .tooManyLinks

/-- Puts a text file with all its text at a path. -/
def writeText (fs : FileSystem) (path text : String) : Except FileFault FileSystem :=
  fs.writeBytes path text.toUTF8

/-- Writes a file on a medium, and the files after that, whether it was written or not.  If the file
cannot be opened, they are as before.  Otherwise it is created or emptied and then written, and it keeps
the bytes that the medium has taken before it stops. -/
def writeOn (medium : Medium) (fs : FileSystem) (path : String) (content : ByteArray) :
    Except FileFault Unit × FileSystem :=
  let stop? := medium path content
  let kept :=
    match stop? with
    | some stop => content.extract 0 stop.count
    | none => content
  match fs.writeBytes path kept with
  | .error fault => (.error fault, fs)
  | .ok files =>
    match stop? with
    | some stop => (.error stop.fault, files)
    | none => (.ok (), files)

/-- Makes a directory.  Its name must be free: even a link that leads nowhere is in the way. -/
def makeDirectory (fs : FileSystem) (path : String) : Except FileFault FileSystem := do
  let (trail, name) ← fs.lastPlace path
  if name = "." || name = ".." then throw .exists
  else if nameLimit < name.utf8ByteSize then throw .tooLong
  else if ((fs.reached trail).child? name).isSome then throw .exists
  else return fs.changed (trailNames trail) (Entry.setIn name (.directory []))

/-- Makes a directory unless the path leads to one. -/
def ensureDirectory (fs : FileSystem) (path : String) : Except FileFault FileSystem :=
  match fs.makeDirectory path with
  | .error .exists => if fs.hasDirectory path then .ok fs else .error .exists
  | result => result

/-- Makes the first of some directories.  While the directory above it is missing, the others are
made before. -/
def ensureOutwards (fs : FileSystem) : List String → Except FileFault FileSystem
  | [] => .ok fs
  | path :: above =>
    match fs.ensureDirectory path with
    | .error .missing => do
      let fs ← ensureOutwards fs above
      fs.ensureDirectory path
    | result => result

/-- Makes the directory at a path and the directories above it that are missing. -/
def makeDirectories (fs : FileSystem) (path : String) : Except FileFault FileSystem :=
  if path.isEmpty then .ok fs else fs.ensureOutwards (path :: Path.above path)

/-- The files after the first of some directories was to be made, whether it was made or not: those
above it that were made on the way stay. -/
def afterOutwards (fs : FileSystem) : List String → FileSystem
  | [] => fs
  | path :: above =>
    match fs.ensureDirectory path with
    | .ok made => made
    | .error .missing =>
      match fs.ensureOutwards above with
      | .ok outer => (outer.ensureDirectory path).toOption.getD outer
      | .error _ => fs.afterOutwards above
    | .error _ => fs

/-- The files after the directory at a path was to be made, whether it was made or not. -/
def afterDirectories (fs : FileSystem) (path : String) : FileSystem :=
  if path.isEmpty then fs else fs.afterOutwards (path :: Path.above path)

/-- The entry that a path names, its name, and where its directory is.  A link at the end is not
followed. -/
def named (fs : FileSystem) (path : String) : Except FileFault (Trail × String × Entry) := do
  let (trail, name) ← fs.lastPlace path
  if name = "." || name = ".." then throw .isDirectory
  else if nameLimit < name.utf8ByteSize then throw .tooLong
  else
    match (fs.reached trail).child? name with
    | none => throw .missing
    | some entry =>
      if Path.endsInSlash path && !entry.isDirectory then throw .notDirectory
      else return (trail, name, entry)

/-- Removes the file or the link that a path names.  A directory is not removed. -/
def removeFile (fs : FileSystem) (path : String) : Except FileFault FileSystem :=
  match fs.named path with
  | .ok (trail, name, entry) =>
    if entry.isDirectory then .error .isDirectory
    else .ok (fs.changed (trailNames trail) (Entry.removeIn name))
  | .error .exists => .error .isDirectory
  | .error fault => .error fault

/-- Puts an entry under a name into the directory at a path; nothing happens if it is missing. -/
def place (fs : FileSystem) (path name : String) (entry : Entry) : FileSystem :=
  match fs.realPath? path with
  | some names => fs.changed names (Entry.setIn name entry)
  | none => fs

/-- Removes the entry under a name from the directory at a path, if it is there. -/
def remove (fs : FileSystem) (path name : String) : FileSystem :=
  match fs.realPath? path with
  | some names => fs.changed names (Entry.removeIn name)
  | none => fs

end FileSystem

end CodeAudit
