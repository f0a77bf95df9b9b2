import CodeAudit.Migration.Complexity
import CodeAudit.Migration.Framework
import CodeAudit.Packaging.Package
import CodeAudit.Report.Metadata

/-!
# The migration plan
-/

namespace CodeAudit

open Json

/-- The result of planning a migration. -/
structure MigrationPlan where
  metadata : Metadata
  targetFramework : String
  detectedFrameworks : List Detection
  complexity : Complexity
  summary : String
  steps : List MigrationStep
  risks : List String
  estimatedWeeks : Floating
  modelUsed : Bool
  packaging : Option PackagingMethod
  deriving DecidableEq, Inhabited

namespace MigrationPlan

/-- The JSON value of a plan. -/
def toValue (plan : MigrationPlan) : Value :=
  .object
    [("metadata", plan.metadata.toValue), ("target_framework", .text plan.targetFramework),
     ("detected_frameworks", .list (plan.detectedFrameworks.map Detection.toValue)),
     ("complexity", plan.complexity.toValue), ("summary", .text plan.summary),
     ("steps", .list (plan.steps.map MigrationStep.toValue)), ("risks", .ofTexts plan.risks),
     ("estimated_weeks", .real plan.estimatedWeeks), ("llm_used", .truth plan.modelUsed),
     ("packaging", Value.ofOption PackagingMethod.toValue plan.packaging)]

/-- Reads a plan. -/
def reader : Reader :=
  Reader.record "MigrationPlan"
    [.required "metadata" Metadata.reader, .required "target_framework" Reader.text,
     .required "detected_frameworks" (Reader.list Detection.reader),
     .required "complexity" Complexity.reader, .required "summary" Reader.text,
     .required "steps" (Reader.list MigrationStep.reader),
     .required "risks" (Reader.list Reader.text), .required "estimated_weeks" Reader.real,
     .required "llm_used" Reader.truth, .possible "packaging" PackagingMethod.reader]

/-- The plan of a value. -/
def ofValue? (value : Value) : Option MigrationPlan := do
  return {
    metadata := ← value.field? "metadata" Metadata.ofValue?
    targetFramework := ← value.field? "target_framework" Value.asText?
    detectedFrameworks :=
      ← value.field? "detected_frameworks" (Value.asListOf? Detection.ofValue?)
    complexity := ← value.field? "complexity" Complexity.ofValue?
    summary := ← value.field? "summary" Value.asText?
    steps := ← value.field? "steps" (Value.asListOf? MigrationStep.ofValue?)
    risks := ← value.field? "risks" (Value.asListOf? Value.asText?)
    estimatedWeeks := ← value.field? "estimated_weeks" Value.asReal?
    modelUsed := ← value.field? "llm_used" Value.asTruth?
    packaging := ← value.field? "packaging" (Value.asOption? PackagingMethod.ofValue?) }

end MigrationPlan

end CodeAudit
