import CodeAudit.Proofs.Cloud.ExactScore

/-!
# Readiness does not depend on the order of the files

The order of the files enters an assessment through the order of the issues.  The penalties are added
up in this order and each sum is rounded, so the sums may depend on it; but the score is the exact one.
The counts, the categories and the advice count issues, so they are the same for the issues in any
order.  The checks of the project as a whole ask whether some source has what they look for; a source
that is added can only answer such a question.

The model is asked about the issues in their order, so a model may answer otherwise for another order;
what is said here is for a model that gives the same answer.

**Results.**
* `staticIssues_perm`: the static issues of sources in another order.
* `exactScore_perm`, `heuristicScore_perm`: the score of issues in another order.
* `report_perm`: what a report derives from issues in another order.
* `projectIssues_sublist`: more sources raise no more issues of the project.
* `assess_eq_of_perm`: the reports of two orders.
-/

namespace CodeAudit
namespace Cloud

section Issues

variable {issues issues' : List CloudIssue}
variable (hperm : issues.Perm issues')

include hperm

theorem categories_perm :
    categories issues = categories issues' := by
  exact Counting.countNames_perm (hperm.map CloudIssue.category)

theorem penaltyIn_perm
    (category : String) :
    penaltyIn issues category = penaltyIn issues' category :=
  ((hperm.filter _).map _).sum_eq

theorem exactScore_perm :
    exactScore issues = exactScore issues' := by
  have hpenalty : categoryPenalty issues = categoryPenalty issues' := by
    funext category
    rw [categoryPenalty_eq, categoryPenalty_eq, penaltyIn_perm hperm]
  simp only [exactScore, categories_perm hperm, hpenalty]

/-- The sums of the program may depend on the order of the issues, but not the score. -/
theorem heuristicScore_perm :
    heuristicScore issues = heuristicScore issues' := by
  rw [heuristicScore_eq, heuristicScore_eq, exactScore_perm hperm]

/-- In a report only the issues show in which order they came. -/
theorem report_perm
    (metadata : Metadata)
    (provider : Provider)
    (packaging : Option PackagingMethod)
    (answer : Option Assessment) :
    let found := (answer.getD .default).issues.map AssessedIssue.toIssue
    report metadata provider issues' packaging answer =
      { report metadata provider issues packaging answer with issues := issues' ++ found } := by
  intro found
  have hall : (issues ++ found).Perm (issues' ++ found) := hperm.append_right found
  have htally := SeverityCounts.tally_perm (hall.map CloudIssue.severity)
  simp only [report, heuristicScore_perm hperm, categories_perm hall, htally, found]

end Issues

section Project

theorem unlessAny_sublist
    {sources sources' : List SourceText}
    (hsubset : sources ⊆ sources')
    (has : SourceText → Bool)
    (issue : CloudIssue) :
    (unlessAny sources' has issue).Sublist (unlessAny sources has issue) := by
  unfold unlessAny
  by_cases hany : sources.any has = true
  · -- What some source has, it also has among more sources.
    obtain ⟨source, hsource, hhas⟩ := List.any_eq_true.mp hany
    have hany' : sources'.any has = true :=
      List.any_eq_true.mpr ⟨source, hsubset hsource, hhas⟩
    rw [if_pos hany, if_pos hany']
  · rw [if_neg hany]
    split
    · exact List.nil_sublist _
    · exact List.Sublist.refl _

/-- More sources raise no more issues of the project. -/
theorem projectIssues_sublist
    {sources sources' : List SourceText}
    (hsubset : sources ⊆ sources') :
    (projectIssues sources').Sublist (projectIssues sources) := by
  unfold projectIssues
  apply List.Sublist.append
  · exact (unlessAny_sublist hsubset _ _).append (unlessAny_sublist hsubset _ _)
  · exact unlessAny_sublist hsubset _ _

theorem projectIssues_perm
    {sources sources' : List SourceText}
    (hperm : sources.Perm sources') :
    projectIssues sources = projectIssues sources' := by
  exact (projectIssues_sublist hperm.symm.subset).antisymm (projectIssues_sublist hperm.subset)

theorem readableSources_perm
    (read : ReadFile)
    {files files' : List FileRecord}
    (hperm : files.Perm files') :
    (readableSources read files).Perm (readableSources read files') := by
  exact hperm.filterMap _

theorem staticIssues_perm
    {sources sources' : List SourceText}
    (hperm : sources.Perm sources') :
    (staticIssues sources).Perm (staticIssues sources') := by
  rw [staticIssues_eq, staticIssues_eq, projectIssues_perm hperm]
  exact (hperm.flatMap_right _).append_right _

end Project

/-- A model that answers all prompts alike gives the same assessment of any issues. -/
theorem assessment_of_fixed
    {client : Option Client}
    {earlier : List Prompt}
    (hfixed : ∀ model, client = some model →
      ∀ prompt prompt', model.answer earlier prompt = model.answer earlier prompt')
    (provider : Provider)
    (issues issues' : List CloudIssue)
    (package : Option Package) :
    (assessment client earlier provider issues package).1 =
      (assessment client earlier provider issues' package).1 := by
  cases package with
  | none =>
      rfl
  | some shown =>
      cases client with
      | none =>
          rfl
      | some model =>
          simp only [assessment, ask]
          rw [hfixed model rfl]

/--
The readiness of a project does not depend on the order in which its files are given.

If the model gives the same answer, two orders give reports with the same scores, rating, counts,
categories and recommendations, in fact reports that agree in everything but the issues, and these
are the same but for their order.  More sources raise no more of the issues that belong to the project
as a whole.
-/
theorem assess_eq_of_perm
    (client : Option Client)
    (read : ReadFile)
    (earlier : List Prompt)
    (metadata : Metadata)
    (files files' : List FileRecord)
    (hperm : files.Perm files')
    (provider : Provider)
    (package : Option Package)
    (hfixed : ∀ model, client = some model →
      ∀ prompt prompt', model.answer earlier prompt = model.answer earlier prompt') :
    let assessed := (assess client read earlier metadata files provider package).result
    let other := (assess client read earlier metadata files' provider package).result
    other.heuristicScore = assessed.heuristicScore ∧
      other.modelScore = assessed.modelScore ∧
      other.readinessScore = assessed.readinessScore ∧
      other.rating = assessed.rating ∧
      other.severityCounts = assessed.severityCounts ∧
      other.categoryBreakdown = assessed.categoryBreakdown ∧
      other.recommendations = assessed.recommendations ∧
      assessed.issues.Perm other.issues ∧
      other = { assessed with issues := other.issues } ∧
      ∀ sources added : List SourceText,
        (projectIssues (sources ++ added)).Sublist (projectIssues sources) := by
  intro assessed other
  have hstatic := staticIssues_perm (readableSources_perm read hperm)
  have hassessed : assessed = _ :=
    result_assess client read earlier metadata files provider package
  have hother : other = _ :=
    result_assess client read earlier metadata files' provider package
  rw [← assessment_of_fixed hfixed provider (staticIssues (readableSources read files)),
    report_perm hstatic] at hother
  have hsame : other = { assessed with issues := other.issues } := by
    rw [hother, hassessed]
  refine ⟨?_, ?_, ?_, ?_, ?_, ?_, ?_, ?_, hsame, ?_⟩
  · rw [hsame]
  · rw [hsame]
  · rw [hsame]
  · rw [hsame]
  · rw [hsame]
  · rw [hsame]
  · rw [hsame]
  · rw [hother, hassessed]
    exact hstatic.append_right _
  · intro sources added
    exact projectIssues_sublist (List.subset_append_left sources added)

/-- A source file of a sample project. -/
def sampleSource
    (name : String) : FileRecord :=
  ⟨"p/" ++ name, name, 40, some "py", some "python"⟩

/-- Two files with issues of different categories are assessed alike from either order. -/
theorem two_files_assessed_alike :
    let read : ReadFile := fun file =>
      some (if file.relativePath = "a.py" then "url = 'http://localhost'" else "setInterval(job)")
    let files := [sampleSource "a.py", sampleSource "b.py"]
    let client := Client.scripted "scripted" [.ok "\x7b\"readiness_score\": 4\x7d"]
    let package : Package := ⟨"url", .manual, false⟩
    let assessed := (assess (some client) read [] default files .aws (some package)).result
    let other := (assess (some client) read [] default files.reverse .aws (some package)).result
    files.Perm files.reverse ∧
      (∀ model, some client = some model →
        ∀ prompt prompt', model.answer [] prompt = model.answer [] prompt') ∧
      assessed.categoryBreakdown =
        [("Configuration", 2), ("Containerization", 1), ("Observability", 1), ("Scheduling", 1)] ∧
      assessed.issues ≠ other.issues ∧
      other.readinessScore = assessed.readinessScore ∧
      other.categoryBreakdown = assessed.categoryBreakdown ∧
      other.recommendations = assessed.recommendations ∧
      assessed.issues.Perm other.issues := by
  intro read files client package assessed other
  have hperm : files.Perm files.reverse := (List.reverse_perm files).symm
  have hfixed : ∀ model, some client = some model →
      ∀ prompt prompt', model.answer [] prompt = model.answer [] prompt' := by
    rintro model ⟨⟩ prompt prompt'
    rfl
  obtain ⟨-, -, hscore, -, -, hcategories, hadvice, hissues, -⟩ :=
    assess_eq_of_perm (some client) read [] default files files.reverse hperm .aws (some package)
      hfixed
  exact ⟨hperm, hfixed, by decide +kernel, by decide +kernel, hscore, hcategories, hadvice,
    hissues⟩

end Cloud
end CodeAudit
