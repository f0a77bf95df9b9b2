import CodeAudit.Proofs.Cloud.Issues
import CodeAudit.Proofs.Counting
import CodeAudit.Proofs.Finding.Tally
import CodeAudit.Proofs.Text.ByteOrder
import Mathlib.Data.List.Forall2

/-!
# A readiness report describes its own issues

The issues of a report come from the lines of the files, from the project and from the model.  The
static score is computed before the issues of the model are there, and the counts, the categories
and the recommendations after that.  So the score belongs to the static issues alone, and all else
that a report derives from issues belongs to the whole list.

**Results.**
* `assessment_eq_some_iff`: when an assessment is used.
* `isSome_service?_of_static`: every provider has a service for every static issue.
* `serviceAdvice_rel`: one line of advice for each category with a service.
* `report_consistent`: what the fields of a report say of each other.
* `assess_consistent`: all of it for an assessed project, and what no model changes.
-/

namespace CodeAudit
namespace Cloud

/--
An assessment is received for a project: there are a model and a packaged codebase, the model answers
the question about the static issues, and the assessment can be read from its answer.
-/
def Receives
    (client : Option Client)
    (earlier : List Prompt)
    (provider : Provider)
    (static : List CloudIssue)
    (package : Option Package)
    (assessed : Assessment) : Prop :=
  ∃ model shown answer, client = some model ∧ package = some shown ∧
    model.answer earlier
        ⟨assessmentRole, assessmentQuestion provider static (heuristicScore static) shown⟩ =
      .ok answer ∧
    Assessment.ofAnswer? answer = some assessed

/-- An issue of a report says what an issue of the model says; it belongs to no file. -/
structure AssessedIssue.Becomes
    (assessed : AssessedIssue)
    (issue : CloudIssue) : Prop where
  file : issue.file = none
  line : issue.line = none
  /-- The category is never blank, and it is that of the model where that is not blank. -/
  named : Text.isBlankText issue.category = false
  category : Text.isBlankText assessed.category = false → issue.category = assessed.category
  severity : issue.severity = .ofLabel assessed.severity
  details :
    issue.description = assessed.description ∧ issue.recommendation = assessed.recommendation

/-- The categories that a provider has a service for, in the order of the counts. -/
def servedCategories
    (provider : Provider)
    (counts : List (String × Nat)) : List String :=
  (counts.map Prod.fst).filter fun category => (provider.service? category).isSome

/-- A line recommends the service of a provider for a category. -/
def Recommends
    (provider : Provider)
    (category line : String) : Prop :=
  ∃ service, provider.service? category = some service ∧
    line = category ++ ": use " ++ service ++ " on " ++ provider.label

/-- What the fields of a report say of the static issues, of the model and of each other. -/
structure Consistent
    (provider : Provider)
    (static : List CloudIssue)
    (assessed : Option Assessment)
    (report : CloudReport) : Prop where
  /-- The issues of the model follow the static ones, one by one and in order. -/
  issues :
    ∃ found,
      report.issues = static ++ found ∧
        List.Forall₂ AssessedIssue.Becomes ((assessed.map Assessment.issues).getD []) found
  /-- The static score is that of the static issues alone. -/
  score : report.heuristicScore = heuristicScore static
  severities :
    ∀ severity,
      report.severityCounts.get severity =
        report.issues.countP fun issue => decide (issue.severity = severity)
  counted : report.severityCounts.total = report.issues.length
  brokenDown :
    Counting.total (report.categoryBreakdown.map Prod.snd) = report.issues.length
  /-- A category is counted if some issue has it, and then with the number of these issues. -/
  categories :
    ∀ category count,
      (category, count) ∈ report.categoryBreakdown ↔
        (∃ issue ∈ report.issues, issue.category = category) ∧
          count = report.issues.countP fun issue => issue.category == category
  /-- Each category is counted once, in the order of the bytes. -/
  ordered :
    (report.categoryBreakdown.map Prod.fst).Pairwise fun a b => Text.bytes a < Text.bytes b
  /-- One line for each category with a service, in their order, then what the model recommends. -/
  recommendations :
    ∃ lines,
      report.recommendations =
          lines ++ (assessed.map Assessment.recommendations).getD [] ∧
        List.Forall₂ (Recommends provider)
          (servedCategories provider report.categoryBreakdown) lines
  served :
    ∀ issue ∈ static, issue.category ∈ servedCategories provider report.categoryBreakdown
  rating : report.rating = Cloud.rating report.readinessScore

section Assessment

/-- An assessment is used exactly if it is received. -/
theorem assessment_eq_some_iff
    {client : Option Client}
    {earlier : List Prompt}
    {provider : Provider}
    {static : List CloudIssue}
    {package : Option Package}
    {received : Assessment} :
    (assessment client earlier provider static package).1 = some received ↔
      Receives client earlier provider static package received := by
  cases package with
  | none =>
      simp [assessment, Receives]
  | some shown =>
      simp only [assessment, ask_bind_eq_some_iff, Receives, Option.some.injEq]
      constructor
      · rintro ⟨model, answer, hclient, hanswer, hread⟩
        exact ⟨model, shown, answer, hclient, rfl, hanswer, hread⟩
      · rintro ⟨model, _, answer, hclient, rfl, hanswer, hread⟩
        exact ⟨model, answer, hclient, hanswer, hread⟩

theorem AssessedIssue.becomes_toIssue
    (assessed : AssessedIssue) :
    assessed.Becomes assessed.toIssue where
  file := rfl
  line := rfl
  named := by
    cases hblank : Text.isBlankText assessed.category with
    | false =>
        simp [toIssue, hblank]
    | true =>
        simp only [toIssue, hblank, if_true]
        decide
  category hcategory := by
    simp [toIssue, hcategory]
  severity := by
    simp only [toIssue]
  details := ⟨rfl, rfl⟩

end Assessment

section Services

/-- Whether there is a service for a category does not depend on the provider. -/
theorem isSome_service?
    (provider : Provider)
    (category : String) :
    (provider.service? category).isSome = (Provider.services? category).isSome := by
  rw [Provider.service?, Option.isSome_map]

theorem category_of_mem_issuesFrom
    {path : String}
    {number : Nat}
    {lines : List String}
    {issue : CloudIssue}
    (hissue : issue ∈ issuesFrom path number lines) :
    ∃ rule ∈ rules, issue.category = rule.category := by
  obtain ⟨index, line, -, -, rule, hrule, -, rfl⟩ := mem_issuesFrom_iff.mp hissue
  exact ⟨rule, hrule, rfl⟩

/-- The rules and the checks of a project use only categories that every provider serves. -/
theorem isSome_service?_of_static
    (provider : Provider)
    {sources : List SourceText}
    {issue : CloudIssue}
    (hissue : issue ∈ staticIssues sources) :
    (provider.service? issue.category).isSome = true := by
  have hrules : ∀ rule ∈ rules, (Provider.services? rule.category).isSome = true := by
    decide
  rw [isSome_service?]
  rw [staticIssues_eq, List.mem_append] at hissue
  rcases hissue with hfile | hproject
  · obtain ⟨source, -, hline⟩ := List.mem_flatMap.mp hfile
    obtain ⟨rule, hrule, hcategory⟩ := category_of_mem_issuesFrom hline
    rw [hcategory]
    exact hrules rule hrule
  · simp only [projectIssues, List.mem_append, mem_unlessAny_iff] at hproject
    rcases hproject with (⟨rfl, -⟩ | ⟨rfl, -⟩) | ⟨rfl, -⟩ <;> rfl

/-- There is one line of advice for each category with a service, in their order. -/
theorem serviceAdvice_rel
    (provider : Provider)
    (counts : List (String × Nat)) :
    List.Forall₂ (Recommends provider)
      (servedCategories provider counts) (serviceAdvice provider counts) := by
  induction counts with
  | nil =>
      exact List.Forall₂.nil
  | cons entry rest ih =>
      obtain ⟨category, count⟩ := entry
      rw [servedCategories, serviceAdvice] at *
      cases hservice : provider.service? category with
      | none =>
          simpa [hservice] using ih
      | some service =>
          simpa [hservice] using ⟨⟨service, hservice, rfl⟩, ih⟩

end Services

section Report

/-- The categories that are counted are those of the issues, each with its number of issues. -/
theorem mem_categories_iff
    (issues : List CloudIssue)
    (category : String)
    (count : Nat) :
    (category, count) ∈ categories issues ↔
      (∃ issue ∈ issues, issue.category = category) ∧
        count = issues.countP fun issue => issue.category == category := by
  rw [categories, Counting.mem_countNames_iff, List.mem_map, List.count, List.countP_map]
  rfl

theorem mem_servedCategories_iff
    (provider : Provider)
    (issues : List CloudIssue)
    (category : String) :
    category ∈ servedCategories provider (categories issues) ↔
      (∃ issue ∈ issues, issue.category = category) ∧
        (provider.service? category).isSome = true := by
  rw [servedCategories, List.mem_filter, List.mem_map]
  constructor
  · rintro ⟨⟨⟨_, count⟩, hcount, rfl⟩, hservice⟩
    exact ⟨((mem_categories_iff issues _ count).mp hcount).1, hservice⟩
  · rintro ⟨hissue, hservice⟩
    exact ⟨⟨_, (mem_categories_iff issues category _).mpr ⟨hissue, rfl⟩, rfl⟩, hservice⟩

/-- What is assumed without an assessment adds no issues. -/
theorem issues_getD_default
    (assessed : Option Assessment) :
    (assessed.getD .default).issues = (assessed.map Assessment.issues).getD [] := by
  cases assessed <;> rfl

/-- What is assumed without an assessment adds no recommendations. -/
theorem recommendations_getD_default
    (assessed : Option Assessment) :
    (assessed.getD .default).recommendations =
      (assessed.map Assessment.recommendations).getD [] := by
  cases assessed <;> rfl

/-- A report on the static issues of some sources is consistent, with an assessment or without. -/
theorem report_consistent
    (metadata : Metadata)
    (provider : Provider)
    (sources : List SourceText)
    (packaging : Option PackagingMethod)
    (assessed : Option Assessment) :
    Consistent provider (staticIssues sources) assessed
      (report metadata provider (staticIssues sources) packaging assessed) where
  issues := by
    refine ⟨(assessed.getD .default).issues.map AssessedIssue.toIssue, rfl, ?_⟩
    rw [List.forall₂_map_right_iff, issues_getD_default]
    exact List.forall₂_same.mpr fun issue _ => issue.becomes_toIssue
  score := rfl
  severities severity :=
    SeverityCounts.get_tally_map CloudIssue.severity _ severity
  counted := by
    exact (SeverityCounts.total_tally _).trans (List.length_map _)
  brokenDown := by
    exact (Counting.total_countNames _).trans (List.length_map _)
  categories := mem_categories_iff _
  ordered := (Counting.tallied_countNames _).ordered.imp Text.lt_iff_bytes_lt.mp
  recommendations := by
    refine ⟨_, ?_, serviceAdvice_rel provider _⟩
    rw [← recommendations_getD_default]
    rfl
  served issue hissue := by
    apply (mem_servedCategories_iff provider _ issue.category).mpr
    exact ⟨⟨issue, List.mem_append_left _ hissue, rfl⟩,
      isSome_service?_of_static provider hissue⟩
  rating := rfl

end Report

/-- An assessed project has the report on its static issues and on the assessment received. -/
theorem result_assess
    (client : Option Client)
    (read : ReadFile)
    (earlier : List Prompt)
    (metadata : Metadata)
    (files : List FileRecord)
    (provider : Provider)
    (package : Option Package) :
    let static := staticIssues (readableSources read files)
    (assess client read earlier metadata files provider package).result =
      report metadata provider static (package.map Package.method)
        (assessment client earlier provider static package).1 := by
  rfl

/-- The static issues, file by file: a file that cannot be read has none. -/
theorem staticIssues_readableSources
    (read : ReadFile)
    (files : List FileRecord) :
    staticIssues (readableSources read files) =
      (files.flatMap fun file => ((read file).map (fileIssues file.relativePath)).getD []) ++
        projectIssues (readableSources read files) := by
  rw [staticIssues_eq]
  congr 1
  induction files with
  | nil =>
      rfl
  | cons file rest ih =>
      rw [readableSources] at *
      cases hread : read file with
      | none =>
          simpa [hread] using ih
      | some content =>
          simpa [hread] using ih

/--
A readiness report is consistent.

Its issues are those of the readable files in order, those of the project and those of the model;
the static score is computed from the first two alone, and neither another model nor another answer
changes it.  The counts by severity and by category describe all issues.  The recommendations begin
with one line for each counted category that the provider has a service for, in the order of the
categories; every static issue is served.
-/
theorem assess_consistent
    (client : Option Client)
    (read : ReadFile)
    (earlier : List Prompt)
    (metadata : Metadata)
    (files : List FileRecord)
    (provider : Provider)
    (package : Option Package) :
    let static :=
      (files.flatMap fun file => ((read file).map (fileIssues file.relativePath)).getD []) ++
        projectIssues (readableSources read files)
    let assessed := assess client read earlier metadata files provider package
    ∃ assessment : Option Assessment,
      (∀ received,
        assessment = some received ↔
          Receives client earlier provider static package received) ∧
      Consistent provider static assessment assessed.result ∧
      ∀ (other : Option Client) (otherwise : List Prompt) (shown : Option Package),
        (assess other read otherwise metadata files provider shown).result.heuristicScore =
          assessed.result.heuristicScore := by
  intro static assessed
  have hstatic : staticIssues (readableSources read files) = static :=
    staticIssues_readableSources read files
  have hconsistent := fun (answered : Option Assessment) =>
    report_consistent metadata provider (readableSources read files)
      (package.map Package.method) answered
  have hresult : assessed.result = _ :=
    result_assess client read earlier metadata files provider package
  rw [hstatic] at hconsistent hresult
  refine ⟨(assessment client earlier provider static package).1,
    fun received => assessment_eq_some_iff, ?_, ?_⟩
  · rw [hresult]
    exact hconsistent _
  · intro other otherwise shown
    rw [result_assess, hstatic, hresult]
    rfl

end Cloud
end CodeAudit
