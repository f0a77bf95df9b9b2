import CodeAudit.Security.Rule
import CodeAudit.Text.Line

/-!
# Heuristic findings

Every line of a file that is not a comment is tried against every rule; each match gives one
finding.  The score of a file is the highest score of its findings and half a point for each
further finding, at most 10.
-/

namespace CodeAudit
namespace Security

/-- The finding of a rule on a line of a file. -/
def Rule.finding (rule : Rule) (path : String) (line : Nat) : Vulnerability where
  kind := rule.kind
  severity := .ofScore rule.score
  line := some line
  description := rule.description
  recommendation := some rule.recommendation
  file := path
  source := .heuristic
  cve := none
  score := some rule.score

/-- The findings on one line. -/
def lineFindings (path : String) (number : Nat) (line : String) : List Vulnerability :=
  if commentLine.foundIn line then []
  else
    (rules.filter fun rule => rule.pattern.foundIn line).map fun rule => rule.finding path number

/-- The findings on lines that are numbered from `number` on. -/
def findingsFrom (path : String) (number : Nat) : List String → List Vulnerability
  | [] => []
  | line :: rest => lineFindings path number line ++ findingsFrom path (number + 1) rest

/-- The heuristic findings in a file with this content. -/
def heuristicFindings (path content : String) : List Vulnerability :=
  findingsFrom path 1 (Text.lines content)

/-- The score of a finding, or else the weight of its severity. -/
def findingScore (v : Vulnerability) : Floating := v.score.getD v.severity.weight

/-- The score of a file with these findings. -/
def heuristicScore (findings : List Vulnerability) : Floating :=
  if findings.isEmpty then 0
  else
    let highest := (findings.map findingScore).foldl Floating.maximum 0
    (highest + .num (1 / 2) * .ofNat (findings.length - 1)).minimum 10

end Security
end CodeAudit
