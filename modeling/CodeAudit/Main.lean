import CodeAudit.CommandLine.Run
import CodeAudit.Report.Moment

/-!
# The program

The program copies what it needs of the machine's files into a `FileSystem`, runs the command on
it, writes the files that changed, and prints.  Other programs and the network are out of its reach:
it goes on as if no program were installed and no endpoint answered.
-/

namespace CodeAudit
namespace Machine

/-- How deep directories are copied. -/
def depthLimit : Nat := 256

/-- The whole number of seconds in a time of the machine. -/
def secondsOf (time : IO.FS.SystemTime) : Nat := time.sec.toNat

/-- Copies an entry; what cannot be read is left out. -/
def copy : (depth : Nat) → IO.FS.DirEntry → IO (Option Entry)
  | 0, _ => return none
  | depth + 1, place => do
    try
      let about ← place.path.symlinkMetadata
      match about.type with
      | .file =>
        return some (.file (← IO.FS.readBinFile place.path) (secondsOf about.modified))
      | .symlink => return some (.link (← IO.FS.realPath place.path).toString)
      | .dir =>
        let mut entries := []
        for inner in (← place.path.readDir).toList do
          if let some entry ← copy depth inner then
            entries := entries ++ [(inner.fileName, entry)]
        return some (.directory entries)
      | .other => return none
    catch _ => return none

/-- The directory and the last name of a path without links. -/
def parted (path : String) : String × String :=
  let names := Path.names path
  ("/" ++ "/".intercalate names.dropLast, names.getLast?.getD "")

/-- Adds the directories that lead to a path, as far as they exist, and of each of them the files
that may exclude others. -/
def lead (fs : FileSystem) : (above : String) → List String → IO FileSystem
  | _, [] => return fs
  | above, name :: rest => do
    let directory : IO.FS.DirEntry := ⟨above, name⟩
    if !(← directory.path.isDir) then return fs
    let path := above ++ "/" ++ name
    let mut known := (fs.makeDirectories path).toOption.getD fs
    for excluding in Discovery.topMarkers ++ [".gitignore", ".ignore"] do
      if let some entry ← copy 3 ⟨path, excluding⟩ then
        if !known.hasEntry (path ++ "/" ++ excluding) then
          known := known.place path excluding entry
    lead known path rest

/-- Adds what is found at a path, and what is needed to get there. -/
def observe (fs : FileSystem) (path : String) : IO FileSystem := do
  try
    let real := (← IO.FS.realPath path).toString
    let (directory, name) := parted real
    let led ← lead fs "" (Path.names directory)
    match ← copy depthLimit ⟨directory, name⟩ with
    | some entry =>
      let known := led.place directory name entry
      let (linkAbove, linkName) := parted path
      if Path.isAbsolute path && path != real && !known.hasEntry path then
        let linked := (known.makeDirectories linkAbove).toOption.getD known
        return linked.place linkAbove linkName (.link real)
      else return known
    | none => return led
  catch _ => return fs

/-- Writes the entries that a directory did not have before. -/
def store : (depth : Nat) → (path : String) → (before after : Entry) → IO Unit
  | 0, _, _, _ => return ()
  | depth + 1, path, before, after => do
    for (name, entry) in after.entries do
      let place := path ++ "/" ++ name
      match entry, before.child? name with
      | .file content written, some (.file earlier earlierWritten) =>
        if written != earlierWritten || content != earlier then
          IO.FS.writeBinFile place content
      | .file content _, _ => IO.FS.writeBinFile place content
      | .directory _, some known => store depth place known entry
      | .directory _, none =>
        IO.FS.createDirAll place
        store depth place (.directory []) entry
      | .link _, _ => pure ()

/-- The time: that of a file that has just been made. -/
def now : IO Moment := do
  let (_, path) ← IO.FS.createTempFile
  let time := (← path.metadata).modified
  IO.FS.removeFile path
  return ⟨secondsOf time, time.nsec.toNat⟩

/-- The bits that bytes spell. -/
def bitsOf (bytes : ByteArray) : BitVec 128 :=
  bytes.toList.foldl (fun bits byte => (bits <<< 8) ||| .ofNat 128 byte.toNat) 0

/-- The environment variables that matter to the program. -/
def variableNames : List String :=
  ["HOME", "USERPROFILE", "CODEWARDEN_API_KEY", "OPENAI_API_KEY", "CODEWARDEN_BASE_URL",
   "CODEWARDEN_MODEL", "NVD_API_KEY"]

/-- The paths of files and directories that an invocation deals with. -/
def pathsOf (environment : Environment) (invocation : CommandLine.Invocation) : List String :=
  let own :=
    match invocation.task with
    | .scan request _ | .migrate request _ | .cloud request _ =>
      request.path :: request.output.toList
    | .configure output => output.toList
  own ++ invocation.config.toList ++ (Config.homePath environment).toOption.toList

/-- Runs an invocation on the machine. -/
def perform (invocation : CommandLine.Invocation) : IO UInt32 := do
  let started ← IO.monoMsNow
  let moment ← now
  let mut known := []
  for name in variableNames do
    if let some value ← IO.getEnv name then known := known ++ [(name, value)]
  let values := known
  let environment : Environment := fun name => values.lookup name
  let current := (← IO.currentDir).toString
  let mut fs : FileSystem := ⟨.directory [], Path.names current, moment.seconds⟩
  fs ← lead fs "" (Path.names current)
  for path in "reports" :: pathsOf environment invocation do
    let absolute := if Path.isAbsolute path then path else current ++ "/" ++ path
    fs ← observe fs absolute
    fs ← lead fs "" (Path.names (parted absolute).1)
  let random := bitsOf (← IO.getRandomBytes 16)
  let setup : CommandLine.Setup :=
    { around :=
        { programs := fun _ => none
          transport := fun _ _ => none
          temporary := "/tmp"
          unique := (RunId.ofRandom random).text }
      environment := environment
      occasion := ⟨RunId.ofRandom random, moment.text⟩
      stamp := moment.stamp }
  let ending := CommandLine.run setup fs invocation
  store depthLimit "" fs.root ending.files.root
  let hundredths := ((← IO.monoMsNow) - started) / 10
  let elapsed := toString (hundredths / 100) ++ "." ++ Moment.padded 2 (hundredths % 100)
  for line in ending.printed elapsed do
    IO.println line
  if let some reason := ending.failure then
    IO.eprintln ("Error: " ++ reason)
  return ending.exitCode.toUInt32

end Machine
end CodeAudit

/-- Runs the program with its arguments. -/
def main (arguments : List String) : IO UInt32 := do
  match CodeAudit.CommandLine.read arguments with
  | .ok invocation => CodeAudit.Machine.perform invocation
  | .error .version =>
    IO.println (CodeAudit.CommandLine.versionLine CodeAudit.toolVersion)
    return 0
  | .error (.help verb) =>
    for line in CodeAudit.CommandLine.helpLines verb do
      IO.println line
    return 0
  | .error .misuse =>
    IO.eprintln "error: invalid arguments"
    for line in CodeAudit.CommandLine.helpLines none do
      IO.eprintln line
    return 2
