import CodeAudit.Floating.Basic
import CodeAudit.Text.Case
import CodeAudit.Text.Line

/-!
# Severities, priorities and sources

A severity grades a finding and a priority grades a step of work; both have the same four names.
A score from 0 to 10 maps to a severity by thresholds, and any label that a tool or a model uses
maps to a severity or a priority, an unknown one to the middle.
-/

namespace CodeAudit

/-- How bad a finding is. -/
inductive Severity where
  | low
  | medium
  | high
  | critical
  deriving DecidableEq, Inhabited, Repr

namespace Severity

/-- The severities, the worst one first. -/
def worstFirst : List Severity := [critical, high, medium, low]

/-- The name shown to a reader. -/
def label : Severity → String
  | low => "Low"
  | medium => "Medium"
  | high => "High"
  | critical => "Critical"

/-- The place in the order from the mildest to the worst. -/
def level : Severity → Nat
  | low => 0
  | medium => 1
  | high => 2
  | critical => 3

/-- The severity of a score from 0 to 10; a score that is not a number is mild. -/
def ofScore (score : Floating) : Severity :=
  if score.atLeast 9 then critical
  else if score.atLeast 7 then high
  else if score.atLeast 4 then medium
  else low

/-- The score that a finding without one counts as. -/
def weight : Severity → Floating
  | critical => .num 10
  | high => .num (15 / 2)
  | medium => .num 5
  | low => .num 2

/-- The severity that a label of any origin means. -/
def ofLabel (label : String) : Severity :=
  let word := Text.asciiLowerCase (Text.trim label)
  if ["critical", "crit"].contains word then critical
  else if ["high", "error"].contains word then high
  else if ["low", "info", "informational", "note"].contains word then low
  else medium

/-- The severity with exactly this name. -/
def named? (label : String) : Option Severity :=
  worstFirst.find? fun severity => severity.label == label

/-- The worse of two severities. -/
def worse (a b : Severity) : Severity := if a.level < b.level then b else a

/-- The worst severity of a list. -/
def worst? : List Severity → Option Severity
  | [] => none
  | severity :: rest => some (rest.foldl worse severity)

end Severity

/-- How urgent a step of work is. -/
inductive Priority where
  | low
  | medium
  | high
  | critical
  deriving DecidableEq, Inhabited, Repr

namespace Priority

/-- The priorities, the most urgent one first. -/
def urgentFirst : List Priority := [critical, high, medium, low]

/-- The name shown to a reader. -/
def label : Priority → String
  | low => "Low"
  | medium => "Medium"
  | high => "High"
  | critical => "Critical"

/-- The place in a plan: the most urgent work has rank 0. -/
def rank : Priority → Nat
  | critical => 0
  | high => 1
  | medium => 2
  | low => 3

/-- The priority that a label of any origin means. -/
def ofLabel (label : String) : Priority :=
  let word := Text.asciiLowerCase (Text.trim label)
  if ["critical", "urgent"].contains word then critical
  else if word = "high" then high
  else if word = "low" then low
  else medium

/-- The priority with exactly this name. -/
def named? (label : String) : Option Priority :=
  urgentFirst.find? fun priority => priority.label == label

end Priority

/-- Who found something. -/
inductive Source where
  | heuristic
  | model
  | dependencyScanner
  deriving DecidableEq, Inhabited, Repr

namespace Source

/-- The name shown to a reader. -/
def label : Source → String
  | heuristic => "heuristic"
  | model => "llm"
  | dependencyScanner => "dependency-scanner"

/-- The name inside a record. -/
def tag : Source → String
  | heuristic => "heuristic"
  | model => "llm"
  | dependencyScanner => "dependency_scanner"

/-- The source with exactly this name inside a record. -/
def tagged? (tag : String) : Option Source :=
  [heuristic, model, dependencyScanner].find? fun source => source.tag == tag

end Source

end CodeAudit
