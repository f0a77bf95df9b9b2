import CodeAudit.CommandLine.Setting

/-!
# Reading the command line

The arguments are read from left to right.  Common settings may stand before the command or after
it; a value after the command wins.  A setting is settled when the next thing is read, so that its
value is checked then: it may be given once before the command and once after it.  After two
hyphens that stand alone no argument is a setting.

Reading stops early when help or the version is asked for, or at the first mistake.
-/

namespace CodeAudit
namespace CommandLine

/-- Why reading stops early. -/
inductive Stop where
  | help (verb : Option Verb)
  | version
  | misuse
  deriving DecidableEq, Inhabited

/-- A setting that has been read and is not settled yet. -/
inductive Pending where
  | nothing
  | needsValue (setting : Setting)
  | hasValue (setting : Setting) (value : String)
  deriving DecidableEq, Inhabited

/-- What has been read on one side of the command. -/
structure Given where
  values : List (Setting × String)
  path : Option String
  pending : Pending
  deriving DecidableEq, Inhabited

/-- One side of the command: before it, or after it. -/
inductive Side where
  | before
  | after (verb : Verb)
  deriving DecidableEq, Inhabited

namespace Side

/-- The command that a side belongs to. -/
def verb? : Side → Option Verb
  | before => none
  | after verb => some verb

/-- The settings that may stand on a side. -/
def settings : Side → List Setting
  | before => Setting.common ++ [.version]
  | after verb => verb.ownSettings ++ Setting.common

/-- Whether a path may stand on a side. -/
def takesPath : Side → Bool
  | before => false
  | after verb => verb.takesPath

/-- The setting with a long name. -/
def named? (side : Side) (name : String) : Option Setting :=
  side.settings.find? fun setting => setting.name == name

/-- The setting with a letter. -/
def lettered? (side : Side) (letter : Char) : Option Setting :=
  side.settings.find? fun setting => setting.letter? == some letter

/-- The command that a text names on a side. -/
def command? : Side → String → Option Verb
  | before, text => Verb.named? text
  | after _, _ => none

end Side

namespace Given

/-- Nothing has been read yet. -/
def empty : Given := ⟨[], none, .nothing⟩

/-- The value of a setting. -/
def value? (given : Given) (setting : Setting) : Option String := given.values.lookup setting

/-- Whether a setting has been given. -/
def has (given : Given) (setting : Setting) : Bool := (given.value? setting).isSome

/-- Adds a setting with a value that it accepts, unless it has been given already. -/
def add (given : Given) (setting : Setting) (value : String) : Except Stop Given :=
  if given.has setting || !setting.accepts value then .error .misuse
  else .ok { given with values := given.values ++ [(setting, value)] }

/-- Settles the setting that was read last. -/
def settle (given : Given) : Except Stop Given :=
  match given.pending with
  | .nothing => .ok given
  | .needsValue _ => .error .misuse
  | .hasValue setting value => { given with pending := .nothing }.add setting value

/-- Reads a setting without a value. -/
def flag (given : Given) (side : Side) (setting : Setting) : Except Stop Given := do
  let settled ← given.settle
  match setting with
  | .help => .error (.help side.verb?)
  | .version => .error .version
  | _ => settled.add setting ""

/-- Reads a setting that takes a value, which may be attached to it. -/
def option (given : Given) (setting : Setting) (attached : Option String) :
    Except Stop Given := do
  let settled ← given.settle
  match attached with
  | some value => settled.add setting value
  | none => .ok { settled with pending := .needsValue setting }

/-- Reads an argument that is no setting. -/
def place (given : Given) (side : Side) (text : String) : Except Stop Given := do
  let settled ← given.settle
  if side.takesPath && settled.path.isNone && !text.isEmpty then
    .ok { settled with path := some text }
  else .error .misuse

/-- Reads a long name and what follows its equals sign. -/
def long (given : Given) (side : Side) (name : String) (attached : Option String) :
    Except Stop Given :=
  match side.named? name with
  | none => .error .misuse
  | some setting =>
    if setting.takesValue then given.option setting attached
    else if attached.isSome then .error .misuse
    else given.flag side setting

/-- What is attached to the letter of a setting; an equals sign may stand between them. -/
def attachedTo : List Char → Option String
  | [] => none
  | '=' :: rest => some (.ofList rest)
  | rest => some (.ofList rest)

/-- Reads letters; what follows the letter of a setting that takes a value is its value. -/
def letters (given : Given) (side : Side) : List Char → Except Stop Given
  | [] => .ok given
  | letter :: rest =>
    match side.lettered? letter with
    | none => .error .misuse
    | some setting =>
      if setting.takesValue then given.option setting (attachedTo rest)
      else do
        let read ← given.flag side setting
        letters read side rest

end Given

/-- How an argument begins. -/
inductive Argument where
  | word
  | separator
  | long (name : String) (attached : Option String)
  | letters (letters : List Char)
  deriving DecidableEq, Inhabited

namespace Argument

/-- A long name and what follows its first equals sign. -/
def ofLong (letters : List Char) : Argument :=
  let (name, rest) := letters.span (· != '=')
  .long (.ofList name) (rest.tail?.map String.ofList)

/-- How a text begins; a hyphen alone is a word. -/
def of (text : String) : Argument :=
  match text.toList with
  | ['-', '-'] => .separator
  | '-' :: '-' :: name => ofLong name
  | '-' :: letter :: rest => .letters (letter :: rest)
  | _ => .word

end Argument

/-- What has been read on a side, and the command with the arguments after it if there is one. -/
abbrev SideRead := Given × Option (Verb × List String)

/-- Reads an argument that is a word: a value that is needed, the command, or a path. -/
def readWord (side : Side) (given : Given) (text : String) : Except Stop (Given ⊕ Verb) :=
  match given.pending with
  | .needsValue setting => .ok (.inl { given with pending := .hasValue setting text })
  | _ =>
    match side.command? text with
    | some verb => .ok (.inr verb)
    | none => (given.place side text).map .inl

/-- Reads the arguments of a side; `plain` is whether two hyphens have stood alone. -/
def readSide (side : Side) (plain : Bool) (given : Given) :
    List String → Except Stop SideRead
  | [] => .ok (given, none)
  | text :: rest =>
    if plain then do
      let read ← given.place side text
      readSide side true read rest
    else
      match Argument.of text with
      | .separator => readSide side true given rest
      | .long name attached => do
        let read ← given.long side name attached
        readSide side false read rest
      | .letters letters => do
        let read ← given.letters side letters
        readSide side false read rest
      | .word => do
        match ← readWord side given text with
        | .inl read => readSide side false read rest
        | .inr verb => .ok (given, some (verb, rest))

/-- The help that is asked for with a command of its own. -/
def helpStop : List String → Stop
  | [] => .help none
  | [name] => if let some verb := Verb.named? name then .help (some verb) else .misuse
  | _ => .misuse

/-- What is common to the audits. -/
structure AuditRequest where
  path : String
  output : Option String
  skipModel : Bool
  deriving DecidableEq, Inhabited

/-- What the program is asked to do. -/
inductive Task where
  | scan (request : AuditRequest) (skipDependencies : Bool)
  | migrate (request : AuditRequest) (target : String)
  | cloud (request : AuditRequest) (provider : Provider)
  | configure (output : Option String)
  deriving DecidableEq, Inhabited

/-- A command line.  Being verbose and showing what the model says concern the log only. -/
structure Invocation where
  config : Option String
  verbose : Bool
  debugModel : Bool
  task : Task
  deriving DecidableEq, Inhabited

/-- The target of a migration unless another one is given. -/
def defaultTarget : String := "Spring Boot"

/-- What is common to the audits, as given; a path must be there. -/
def Given.request (given : Given) : Except Stop AuditRequest :=
  match given.path with
  | none => .error .misuse
  | some path => .ok ⟨path, given.value? .output, given.has .skipModel⟩

/-- The task of a command with its settings. -/
def task (verb : Verb) (given : Given) : Except Stop Task := do
  match verb with
  | .scan => return .scan (← given.request) (given.has .skipDependencies)
  | .migrate => return .migrate (← given.request) ((given.value? .target).getD defaultTarget)
  | .cloud =>
    return .cloud (← given.request) (((given.value? .provider).bind Provider.tagged?).getD .aws)
  | .config => return .configure (given.value? .output)
  | .help => throw .misuse

/-- Reads a command line. -/
def read (arguments : List String) : Except Stop Invocation := do
  match ← readSide .before false .empty arguments with
  | (_, none) => throw .misuse
  | (_, some (.help, rest)) => throw (helpStop rest)
  | (before, some (verb, rest)) =>
    let (after, _) ← readSide (.after verb) false .empty rest
    let after ← after.settle
    let task ← task verb after
    let before ← before.settle
    return {
      config := (after.value? .config).or (before.value? .config)
      verbose := after.has .verbose || before.has .verbose
      debugModel := after.has .debugModel || before.has .debugModel
      task := task }

end CommandLine
end CodeAudit
