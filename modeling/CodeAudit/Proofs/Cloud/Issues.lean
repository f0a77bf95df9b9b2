import CodeAudit.Proofs.LineRules
import CodeAudit.Proofs.Model.Unusable

/-!
# Where the issues of a report come from

An issue of a line belongs to the file of the line, an issue of the project to no file.  A report
lists the issues of the files, those of the project and those of the model, in this order.

**Results.**
* `missingContainer_mem_staticIssues_iff`: when a project has no container file.
* `staticIssues_prefix_assess`, `issues_assess_without_client`: the issues of a report.
-/

namespace CodeAudit
namespace Cloud

/-- An issue on a line belongs to the file of the line. -/
theorem file_of_mem_issuesFrom
    {path : String}
    {number : Nat}
    {lines : List String}
    {issue : CloudIssue}
    (hissue : issue ∈ issuesFrom path number lines) :
    issue.file = some path := by
  obtain ⟨index, line, -, -, rule, -, -, rfl⟩ := mem_issuesFrom_iff.mp hissue
  rfl

/-- An issue that is raised unless some source has what it asks for. -/
theorem mem_unlessAny_iff
    {sources : List SourceText}
    {has : SourceText → Bool}
    {raised issue : CloudIssue} :
    issue ∈ unlessAny sources has raised ↔
      issue = raised ∧ ∀ source ∈ sources, has source = false := by
  unfold unlessAny
  by_cases hany : sources.any has = true
  · rw [if_pos hany]
    obtain ⟨source, hsource, hhas⟩ := List.any_eq_true.mp hany
    constructor
    · intro hmem
      simp at hmem
    · rintro ⟨-, hnone⟩
      rw [hnone source hsource] at hhas
      cases hhas
  · rw [if_neg hany, List.mem_singleton, iff_self_and]
    rintro -
    simpa using hany

theorem staticIssues_eq
    (sources : List SourceText) :
    staticIssues sources =
      (sources.flatMap fun source => fileIssues source.1 source.2) ++ projectIssues sources := by
  rfl

/-- The missing container file is an issue exactly if no source is one. -/
theorem missingContainer_mem_staticIssues_iff
    (sources : List SourceText) :
    missingContainer ∈ staticIssues sources ↔
      ∀ source ∈ sources, isContainerFile source.1 = false := by
  have hlines : missingContainer ∉
      sources.flatMap fun source => fileIssues source.1 source.2 := by
    intro hmem
    obtain ⟨source, -, hissue⟩ := List.mem_flatMap.mp hmem
    have hfile : missingContainer.file = some source.1 := file_of_mem_issuesFrom hissue
    simp [missingContainer] at hfile
  have hhealth : missingContainer ≠ missingHealthEndpoint := by decide
  have henvironment : missingContainer ≠ missingEnvironment := by decide
  simp only [staticIssues_eq, projectIssues, List.mem_append, hlines, mem_unlessAny_iff, hhealth,
    henvironment, true_and, false_and, or_false, false_or]

/-- A report begins with the static issues. -/
theorem staticIssues_prefix_assess
    (client : Option Client)
    (read : ReadFile)
    (earlier : List Prompt)
    (metadata : Metadata)
    (files : List FileRecord)
    (provider : Provider)
    (package : Option Package) :
    staticIssues (readableSources read files) <+:
      (assess client read earlier metadata files provider package).result.issues := by
  exact List.prefix_append _ _

/-- Without a model a report holds no other issues. -/
theorem issues_assess_without_client
    (read : ReadFile)
    (earlier : List Prompt)
    (metadata : Metadata)
    (files : List FileRecord)
    (provider : Provider)
    (package : Option Package) :
    (assess none read earlier metadata files provider package).result.issues =
      staticIssues (readableSources read files) := by
  rw [assess_without_assessment (assessment_without_client earlier)]
  exact (report_without_assessment _ _ _ _).2.2.2.2.2.1

end Cloud
end CodeAudit
