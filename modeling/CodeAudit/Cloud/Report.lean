import CodeAudit.Cloud.Provider
import CodeAudit.Finding.Record
import CodeAudit.Packaging.Package
import CodeAudit.Report.Metadata

/-!
# The cloud readiness report
-/

namespace CodeAudit

open Json

/-- The result of an assessment for a cloud provider. -/
structure CloudReport where
  metadata : Metadata
  provider : Provider
  readinessScore : Floating
  heuristicScore : Floating
  modelScore : Option Floating
  rating : String
  summary : String
  issues : List CloudIssue
  severityCounts : SeverityCounts
  /-- How many issues there are of each category, in the order of the categories. -/
  categoryBreakdown : List (String × Nat)
  recommendations : List String
  modelUsed : Bool
  packaging : Option PackagingMethod
  deriving DecidableEq, Inhabited

namespace CloudReport

/-- The JSON value of a report. -/
def toValue (report : CloudReport) : Value :=
  .object
    [("metadata", report.metadata.toValue), ("provider", report.provider.toValue),
     ("readiness_score", .real report.readinessScore),
     ("heuristic_score", .real report.heuristicScore),
     ("llm_score", realValue? report.modelScore), ("rating", .text report.rating),
     ("summary", .text report.summary), ("issues", .list (report.issues.map CloudIssue.toValue)),
     ("severity_counts", report.severityCounts.toValue),
     ("category_breakdown", .object (report.categoryBreakdown.map fun (category, count) =>
       (category, .ofCount count))),
     ("recommendations", .ofTexts report.recommendations), ("llm_used", .truth report.modelUsed),
     ("packaging", Value.ofOption PackagingMethod.toValue report.packaging)]

/-- Reads a report. -/
def reader : Reader :=
  Reader.record "CloudReadinessReport"
    [.required "metadata" Metadata.reader, .required "provider" Provider.reader,
     .required "readiness_score" Reader.real, .required "heuristic_score" Reader.real,
     .possible "llm_score" Reader.real, .required "rating" Reader.text,
     .required "summary" Reader.text, .required "issues" (Reader.list CloudIssue.reader),
     .required "severity_counts" SeverityCounts.reader,
     .required "category_breakdown" (Reader.dictionary (Reader.count 64)),
     .required "recommendations" (Reader.list Reader.text), .required "llm_used" Reader.truth,
     .possible "packaging" PackagingMethod.reader]

/-- The counts of a dictionary. -/
def countsOfValue? (value : Value) : Option (List (String × Nat)) :=
  value.asObject?.bind fun members =>
    members.mapM fun (name, count) => count.asCount?.map fun count => (name, count)

/-- The report of a value. -/
def ofValue? (value : Value) : Option CloudReport := do
  return {
    metadata := ← value.field? "metadata" Metadata.ofValue?
    provider := ← value.field? "provider" Provider.ofValue?
    readinessScore := ← value.field? "readiness_score" Value.asReal?
    heuristicScore := ← value.field? "heuristic_score" Value.asReal?
    modelScore := ← value.field? "llm_score" (Value.asOption? Value.asReal?)
    rating := ← value.field? "rating" Value.asText?
    summary := ← value.field? "summary" Value.asText?
    issues := ← value.field? "issues" (Value.asListOf? CloudIssue.ofValue?)
    severityCounts := ← value.field? "severity_counts" SeverityCounts.ofValue?
    categoryBreakdown := ← value.field? "category_breakdown" countsOfValue?
    recommendations := ← value.field? "recommendations" (Value.asListOf? Value.asText?)
    modelUsed := ← value.field? "llm_used" Value.asTruth?
    packaging := ← value.field? "packaging" (Value.asOption? PackagingMethod.ofValue?) }

end CloudReport

end CodeAudit
