import CodeAudit.Cloud.Rule
import CodeAudit.Counting.Names

/-!
# Checks for the cloud

Every line of a file that is not a comment is tried against every rule.  The project as a whole is
checked for a container build, a health endpoint and settings from the environment.

The score starts at 10.  Each issue costs a penalty, the issues of one category together cost at
most 2.5, and the score does not fall below 0.  The penalties of a category are added up issue by
issue, then those of all categories, and the score is rounded to tenths at the end.
-/

namespace CodeAudit
namespace Cloud

/-- The name and the content of a file. -/
abbrev SourceText := String × String

/-- The issue of a rule on a line of a file. -/
def Rule.issue (rule : Rule) (path : String) (line : Nat) : CloudIssue where
  category := rule.category
  severity := rule.severity
  description := rule.description
  recommendation := rule.recommendation
  file := some path
  line := some line

/-- The issues on one line. -/
def lineIssues (path : String) (number : Nat) (line : String) : List CloudIssue :=
  if commentLine.foundIn line then []
  else (rules.filter fun rule => rule.pattern.foundIn line).map fun rule => rule.issue path number

/-- The issues on lines that are numbered from `number` on. -/
def issuesFrom (path : String) (number : Nat) : List String → List CloudIssue
  | [] => []
  | line :: rest => lineIssues path number line ++ issuesFrom path (number + 1) rest

/-- The issues in a file with this content. -/
def fileIssues (path content : String) : List CloudIssue := issuesFrom path 1 (Text.lines content)

/-- The last name of a path, in lower case. -/
def loweredName (path : String) : String :=
  Text.lowerCase (String.ofList ((Text.splitAt '/' path.toList).getLastD []))

/-- Whether a file describes a container. -/
def isContainerFile (path : String) : Bool :=
  let name := loweredName path
  name == "dockerfile" || name == "containerfile" || "dockerfile.".toList.isPrefixOf name.toList

/-- No file describes a container. -/
def missingContainer : CloudIssue where
  category := "Containerization"
  severity := .high
  description := "No Dockerfile or Containerfile found"
  recommendation :=
    "Add a container build so the application can run on managed container platforms."
  file := none
  line := none

/-- No file mentions a health endpoint. -/
def missingHealthEndpoint : CloudIssue where
  category := "Observability"
  severity := .medium
  description := "No health or readiness endpoint detected"
  recommendation :=
    "Expose a lightweight health endpoint for load balancer and orchestrator probes."
  file := none
  line := none

/-- No file reads a setting from the environment. -/
def missingEnvironment : CloudIssue where
  category := "Configuration"
  severity := .medium
  description := "Configuration is never read from the environment"
  recommendation :=
    "Follow twelve-factor configuration: read settings from environment variables."
  file := none
  line := none

/-- The issue, unless some file has what it asks for. -/
def unlessAny (sources : List SourceText) (has : SourceText → Bool) (issue : CloudIssue) :
    List CloudIssue :=
  if sources.any has then [] else [issue]

/-- The issues of the project as a whole. -/
def projectIssues (sources : List SourceText) : List CloudIssue :=
  unlessAny sources (fun source => isContainerFile source.1) missingContainer
    ++ unlessAny sources (fun source => healthEndpoint.foundIn source.2) missingHealthEndpoint
    ++ unlessAny sources (fun source => environmentSetting.foundIn source.2) missingEnvironment

/-- What an issue costs. -/
def penalty : Severity → Rat
  | .critical => 2
  | .high => 1
  | .medium => 1 / 2
  | .low => 1 / 5

/-- The most that the issues of one category cost. -/
def categoryCap : Rat := 5 / 2

/-- The categories of issues, in order. -/
def categories (issues : List CloudIssue) : List (String × Nat) :=
  Counting.countNames (issues.map CloudIssue.category)

/-- Adds the penalty of an issue to those of its category. -/
def charge (penalties : List (String × Floating)) (issue : CloudIssue) : List (String × Floating) :=
  Counting.update issue.category 0 (· + .ofRat (penalty issue.severity)) penalties

/-- The penalties of the issues by category, in order. -/
def penalties (issues : List CloudIssue) : List (String × Floating) := issues.foldl charge []

/-- What the issues cost together; the sum begins at a negative zero. -/
def totalPenalty (issues : List CloudIssue) : Floating :=
  ((penalties issues).map fun (_, penalty) => penalty.minimum (.ofRat categoryCap)).foldl
    (· + ·) .negativeZero

/-- The score of a project with these issues. -/
def heuristicScore (issues : List CloudIssue) : Floating :=
  (Floating.clamp 0 10 (10 - totalPenalty issues)).roundTenth

/-- The rating of a score. -/
def rating (score : Floating) : String :=
  if score.atLeast 8 then "Cloud Ready"
  else if score.atLeast 6 then "Mostly Ready"
  else if score.atLeast 4 then "Needs Work"
  else "Not Ready"

end Cloud
end CodeAudit
