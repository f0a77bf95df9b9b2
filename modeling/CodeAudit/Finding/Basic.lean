import CodeAudit.Finding.Level

/-!
# Findings

The three kinds of results that an audit reports: a vulnerability of a file or of a dependency, an
obstacle to running in the cloud, and a step of a migration.  `SeverityCounts` counts findings by
severity.
-/

namespace CodeAudit

/-- A weakness of a file or of a dependency. -/
structure Vulnerability where
  kind : String
  severity : Severity
  /-- The line, counted from 1; a dependency has none. -/
  line : Option Nat
  description : String
  recommendation : Option String
  /-- The file, or the name of the dependency. -/
  file : String
  source : Source
  cve : Option String
  score : Option Floating
  deriving DecidableEq, Inhabited

/-- An obstacle to running in the cloud. -/
structure CloudIssue where
  category : String
  severity : Severity
  description : String
  recommendation : String
  file : Option String
  line : Option Nat
  deriving DecidableEq, Inhabited

/-- A step of a migration. -/
structure MigrationStep where
  title : String
  description : String
  priority : Priority
  category : String
  effort : String
  deriving DecidableEq, Inhabited

/-- How many findings there are of each severity. -/
structure SeverityCounts where
  critical : Nat
  high : Nat
  medium : Nat
  low : Nat
  deriving DecidableEq, Inhabited

namespace SeverityCounts

/-- No finding at all. -/
def zero : SeverityCounts := ⟨0, 0, 0, 0⟩

/-- Counts one more finding. -/
def add (counts : SeverityCounts) : Severity → SeverityCounts
  | .critical => { counts with critical := counts.critical + 1 }
  | .high => { counts with high := counts.high + 1 }
  | .medium => { counts with medium := counts.medium + 1 }
  | .low => { counts with low := counts.low + 1 }

/-- The counts of a list of severities. -/
def tally (severities : List Severity) : SeverityCounts := severities.foldl add zero

/-- How many findings have a severity. -/
def get (counts : SeverityCounts) : Severity → Nat
  | .critical => counts.critical
  | .high => counts.high
  | .medium => counts.medium
  | .low => counts.low

/-- How many findings there are. -/
def total (counts : SeverityCounts) : Nat :=
  counts.critical + counts.high + counts.medium + counts.low

end SeverityCounts

end CodeAudit
