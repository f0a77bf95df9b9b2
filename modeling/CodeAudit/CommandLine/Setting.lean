import CodeAudit.Cloud.Provider

/-!
# Settings on the command line

A setting has a long name, which follows two hyphens, and may have a letter, which follows one.
Some settings take a value.  Each command knows its own settings besides the common ones.
-/

namespace CodeAudit
namespace CommandLine

/-- A setting that can be given on the command line. -/
inductive Setting where
  | config
  | verbose
  | debugModel
  | output
  | skipDependencies
  | skipModel
  | target
  | provider
  | help
  | version
  deriving DecidableEq, Inhabited

namespace Setting

/-- The name after two hyphens. -/
def name : Setting → String
  | config => "config"
  | verbose => "verbose"
  | debugModel => "debug-llm"
  | output => "output"
  | skipDependencies => "skip-deps"
  | skipModel => "skip-llm"
  | target => "target"
  | provider => "provider"
  | help => "help"
  | version => "version"

/-- The letter after one hyphen. -/
def letter? : Setting → Option Char
  | config => some 'c'
  | verbose => some 'v'
  | output => some 'o'
  | target => some 't'
  | provider => some 'p'
  | help => some 'h'
  | version => some 'V'
  | debugModel | skipDependencies | skipModel => none

/-- Whether a value belongs to the setting. -/
def takesValue : Setting → Bool
  | config | output | target | provider => true
  | verbose | debugModel | skipDependencies | skipModel | help | version => false

/-- Whether a text may be the value: a path is not empty, and a provider is a known one. -/
def accepts (setting : Setting) (value : String) : Bool :=
  match setting with
  | config | output => !value.isEmpty
  | provider => (Provider.tagged? value).isSome
  | _ => true

/-- The settings that every command knows. -/
def common : List Setting := [config, verbose, debugModel, help]

end Setting

/-- The commands; one of them shows help. -/
inductive Verb where
  | scan
  | migrate
  | cloud
  | config
  | help
  deriving DecidableEq, Inhabited

namespace Verb

/-- All commands. -/
def all : List Verb := [scan, migrate, cloud, config, help]

/-- The name of a command. -/
def name : Verb → String
  | scan => "scan"
  | migrate => "migrate"
  | cloud => "cloud"
  | config => "config"
  | help => "help"

/-- The command with exactly this name. -/
def named? (name : String) : Option Verb := all.find? fun verb => verb.name == name

/-- The settings that a command knows besides the common ones. -/
def ownSettings : Verb → List Setting
  | scan => [.output, .skipDependencies, .skipModel]
  | migrate => [.target, .output, .skipModel]
  | cloud => [.provider, .output, .skipModel]
  | config => [.output]
  | help => []

/-- Whether a command works on a project. -/
def takesPath : Verb → Bool
  | scan | migrate | cloud => true
  | config | help => false

end Verb

end CommandLine
end CodeAudit
