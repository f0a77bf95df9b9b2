import CodeAudit.Files.System

/-!
# Running other programs

A program is known by what it does when it is started: it changes files, writes to its error
output, and ends after some time, or never.  A run is given a limit of seconds; a program that has
not ended by then is stopped, but what it did to files stays.  A program is not started if it does
not exist, if its working directory cannot be entered, or if the words of its command cannot be handed
over.
-/

namespace CodeAudit

/-- How a program is started. -/
structure Command where
  program : String
  arguments : List String
  /-- The working directory, unless it is inherited. -/
  directory : Option String
  deriving DecidableEq, Inhabited

/-- How a program ends. -/
inductive Finish where
  | exited (code : Nat)
  | killed (signal : Nat)
  deriving DecidableEq, Inhabited

/-- Why a program is not started. -/
inductive StartFault where
  | missing
  | noDirectory (fault : FileFault)
  | zeroCharacter
  | tooLong
  deriving DecidableEq, Inhabited

/-- The wording of a fault. -/
def StartFault.message : StartFault → String
  | .missing => "No such file or directory (os error 2)"
  | .noDirectory fault => fault.message
  | .zeroCharacter => "nul byte found in provided data"
  | .tooLong => "Argument list too long (os error 7)"

namespace Command

/-- All words that are handed over to start a program. -/
def words (command : Command) : List String :=
  command.program :: command.arguments ++ command.directory.toList

/-- How many bytes an argument must not reach. -/
def argumentLimit : Nat := 131072

/-- Whether a word holds a zero character.  Words that are handed over end where one stands, so that
such a word cannot be. -/
def holdsZero (command : Command) : Bool :=
  command.words.any fun word => word.toList.contains '\x00'

/-- Why the working directory of a command cannot be entered; an inherited one can. -/
def directoryFault? (command : Command) (fs : FileSystem) : Option FileFault :=
  command.directory.bind fun path =>
    match fs.entry path with
    | .ok entry => if entry.isDirectory then none else some .notDirectory
    | .error fault => some fault

/-- Whether an argument has too many bytes. -/
def isTooLong (command : Command) : Bool :=
  command.arguments.any fun word => argumentLimit ≤ word.utf8ByteSize

end Command

/-- What a started program does. -/
structure Effect where
  files : FileSystem
  errorOutput : String
  finish : Finish
  /-- How many seconds it takes; it may never end. -/
  duration : Option Nat

/-- The programs that can be started, by name. -/
abbrev Programs := String → Option (FileSystem → Command → Effect)

namespace Finish

/-- Whether a program ended well. -/
def isSuccess (finish : Finish) : Bool := finish == .exited 0

/-- The names of the signals, from 1 on. -/
def signalNames : List String :=
  ["SIGHUP", "SIGINT", "SIGQUIT", "SIGILL", "SIGTRAP", "SIGABRT", "SIGBUS", "SIGFPE", "SIGKILL",
   "SIGUSR1", "SIGSEGV", "SIGUSR2", "SIGPIPE", "SIGALRM", "SIGTERM", "SIGSTKFLT", "SIGCHLD",
   "SIGCONT", "SIGSTOP", "SIGTSTP", "SIGTTIN", "SIGTTOU", "SIGURG", "SIGXCPU", "SIGXFSZ",
   "SIGVTALRM", "SIGPROF", "SIGWINCH", "SIGIO", "SIGPWR", "SIGSYS"]

/-- How messages describe the end of a program. -/
def label : Finish → String
  | .exited code => "exit status: " ++ toString code
  | .killed signal =>
    "signal: " ++ toString signal
      ++ (match signalNames[signal - 1]? with
          | some name => " (" ++ name ++ ")"
          | none => "")

end Finish

/-- How a run within a limit of seconds turns out. -/
inductive Run where
  | notStarted (fault : StartFault)
  | timedOut (files : FileSystem)
  | ended (files : FileSystem) (finish : Finish) (errorOutput : String)

namespace Run

/-- Runs a command.  Its words are looked at first; then its directory is entered, and the program is
looked for and takes its arguments. -/
def of (programs : Programs) (fs : FileSystem) (limit : Nat) (command : Command) : Run :=
  if command.holdsZero then .notStarted .zeroCharacter
  else
    match command.directoryFault? fs, programs command.program with
    | some fault, _ => .notStarted (.noDirectory fault)
    | none, none => .notStarted .missing
    | none, some program =>
      if command.isTooLong then .notStarted .tooLong
      else
        let effect := program fs command
        if effect.duration.any (· < limit) then
          .ended effect.files effect.finish effect.errorOutput
        else .timedOut effect.files

/-- How messages write a limit of seconds. -/
def limitLabel (limit : Nat) : String := if limit = 0 then "0ns" else toString limit ++ "s"

end Run

end CodeAudit
