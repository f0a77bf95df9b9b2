import CodeAudit.Migration.Complexity
import CodeAudit.Migration.Framework

/-!
# Steps of a migration

Two steps lay the foundation; every detected framework adds one.  The estimate of the weeks grows
with the functions and classes of the codebase and with the files that use a legacy framework.
-/

namespace CodeAudit
namespace Migration

/-- The effort for a number of files. -/
def effort (files : Nat) : String :=
  if files ≤ 3 then "1-2 days"
  else if files ≤ 10 then "3-5 days"
  else if files ≤ 30 then "1-2 weeks"
  else "3+ weeks"

/-- The step that creates the new project. -/
def skeletonStep (target : String) : MigrationStep where
  title := "Set up the " ++ target ++ " project skeleton"
  description :=
    "Create the " ++ target ++ " build, dependency management and CI pipeline alongside the existing application so modules can move over incrementally."
  priority := .critical
  category := "Foundation"
  effort := "2-3 days"

/-- The step that secures the present behaviour. -/
def testingStep : MigrationStep where
  title := "Add regression tests around current behaviour"
  description :=
    "Cover the entry points that will be rewritten with integration tests before changing them."
  priority := .high
  category := "Testing"
  effort := "1 week"

/-- What is to be done about a framework; the number of files and the effort are left open. -/
def frameworkStep (target : String) : Framework → MigrationStep
  | .struts =>
    ⟨"Replace Struts actions with " ++ target ++ " controllers",
     "Map each Action and ActionForm to a controller and request model; move struts-config routing into annotations.",
     .high, "Web Layer", ""⟩
  | .ejb =>
    ⟨"Convert EJB session beans to " ++ target ++ " services",
     "Turn stateless beans into plain injectable services, replace JNDI lookups with dependency injection and container transactions with declarative ones.",
     .high, "Business Layer", ""⟩
  | .servletJsp =>
    ⟨"Migrate servlets and JSP views",
     "Rewrite servlets as controllers and move JSP rendering to a modern template engine or a separate frontend.",
     .medium, "Presentation", ""⟩
  | .springXml =>
    ⟨"Convert XML bean definitions to annotated configuration",
     "Replace applicationContext XML with component scanning and configuration classes.",
     .medium, "Configuration", ""⟩
  | .soapRpc =>
    ⟨"Replace JAX-RPC/Axis endpoints",
     "Expose the same operations through REST or JAX-WS and keep a compatibility facade for existing consumers.",
     .high, "Integration", ""⟩
  | .angularJs =>
    ⟨"Rewrite AngularJS controllers as " ++ target ++ " components",
     "Move $scope state into component state and services; migrate routes module by module.",
     .high, "Frontend", ""⟩
  | .jQuery =>
    ⟨"Retire jQuery DOM manipulation",
     "Replace $.ajax with fetch and direct DOM mutation with component rendering.",
     .low, "Frontend", ""⟩

/-- The step for a detected framework. -/
def detectionStep (target : String) (detection : Detection) : MigrationStep :=
  let step := frameworkStep target detection.framework
  let files := detection.files.length
  { step with
    description := step.description ++ " (" ++ toString files ++ " files affected)"
    effort := effort files }

/-- The steps that follow from what was detected. -/
def heuristicSteps (detections : List Detection) (target : String) : List MigrationStep :=
  skeletonStep target :: testingStep :: detections.map (detectionStep target)

/-- The estimate of the weeks. -/
def heuristicWeeks (complexity : Complexity) (detections : List Detection) : Floating :=
  let affected := Counting.total (detections.map fun d => d.files.length)
  let raw : Floating :=
    .ofNat complexity.totalFunctions / 40 + .ofNat complexity.totalClasses / 15
      + .ofNat affected / 10
  (raw.maximum 1).roundTenth

end Migration
end CodeAudit
