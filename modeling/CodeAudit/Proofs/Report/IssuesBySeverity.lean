import CodeAudit.Proofs.Finding.Tally
import CodeAudit.Proofs.Sorting
import CodeAudit.Proofs.Text.LineEndings
import CodeAudit.Report.Markdown

/-!
# The issues of a cloud readiness report

The page of a cloud readiness report goes through the issues once for each severity, from the worst one
to the mildest.  Every issue has one of these severities, so the passes together are a sort by falling
severity: no issue is lost or repeated, and issues of one severity keep the order of the report.  The
page depends on nothing else of the order.

**Results.**
* `worstIssuesFirst_eq_flatMap`: the passes are a stable sort.
* `listsIssues_worstIssuesFirst`: what the section shows, and in which order.
* `getElem?_lines_issuesSection`: when the section says that there are no issues.
* `issues_sorted_by_severity`: the section in its page.
-/

namespace CodeAudit

namespace Severity

theorem mem_worstFirst
    (severity : Severity) :
    severity ∈ worstFirst := by
  cases severity <;> decide

theorem level_le_three
    (severity : Severity) :
    severity.level ≤ 3 := by
  cases severity <;> decide

/-- Counted from the worst severity, the levels rise. -/
theorem pairwise_mildness_worstFirst :
    (worstFirst.map fun severity => 3 - severity.level).Pairwise (· < ·) := by
  decide

end Severity

namespace Markdown

/-! ## The order -/

/-- The issues of a severity in a list. -/
def issuesOf
    (severity : Severity)
    (issues : List CloudIssue) : List CloudIssue :=
  issues.filter fun issue => issue.severity == severity

/-- The issues sorted by falling severity; the sort is stable. -/
def worstIssuesFirst (issues : List CloudIssue) : List CloudIssue :=
  issues.mergeSort fun a b => decide (b.severity.level ≤ a.severity.level)

section Order

variable (issues : List CloudIssue)

/-- The worse issue is the one of the smaller rank. -/
theorem worstIssuesFirst_eq_mergeSort_rank :
    worstIssuesFirst issues =
      issues.mergeSort fun a b => decide (3 - a.severity.level ≤ 3 - b.severity.level) := by
  have hcomparison : (fun a b : CloudIssue => decide (b.severity.level ≤ a.severity.level)) =
      fun a b => decide (3 - a.severity.level ≤ 3 - b.severity.level) := by
    funext a b
    have ha := a.severity.level_le_three
    have hb := b.severity.level_le_three
    rw [decide_eq_decide]
    omega
  rw [worstIssuesFirst, hcomparison]

/-- The issues of a severity are those of its rank. -/
theorem issuesOf_eq_filter_rank
    (severity : Severity) :
    issuesOf severity issues =
      issues.filter fun issue => decide (3 - issue.severity.level = 3 - severity.level) := by
  apply List.filter_congr
  intro issue _
  rw [beq_eq_decide, decide_eq_decide]
  constructor
  · rintro rfl
    rfl
  · intro hrank
    have hissue := issue.severity.level_le_three
    have hseverity := severity.level_le_three
    exact Severity.level_injective (by omega)

/-- Sorting by severity puts the issues of each severity after those of the worse ones. -/
theorem worstIssuesFirst_eq_flatMap :
    worstIssuesFirst issues =
      Severity.worstFirst.flatMap fun severity => issuesOf severity issues := by
  have hgroups := Sorting.mergeSort_eq_flatMap_filter
    (fun issue : CloudIssue => 3 - issue.severity.level) issues
    Severity.pairwise_mildness_worstFirst fun issue _ =>
      List.mem_map.mpr ⟨issue.severity, issue.severity.mem_worstFirst, rfl⟩
  rw [worstIssuesFirst_eq_mergeSort_rank, hgroups, List.flatMap_map]
  exact List.flatMap_congr fun severity _ => (issuesOf_eq_filter_rank issues severity).symm

theorem pairwise_worstIssuesFirst :
    (worstIssuesFirst issues).Pairwise fun a b => b.severity.level ≤ a.severity.level := by
  have hsorted := Sorting.pairwise_mergeSort_rank
    (fun issue : CloudIssue => 3 - issue.severity.level) issues
  rw [← worstIssuesFirst_eq_mergeSort_rank] at hsorted
  refine hsorted.imp ?_
  intro a b hab
  have hb := b.severity.level_le_three
  omega

theorem issuesOf_worstIssuesFirst
    (severity : Severity) :
    issuesOf severity (worstIssuesFirst issues) = issuesOf severity issues := by
  rw [issuesOf_eq_filter_rank, issuesOf_eq_filter_rank, worstIssuesFirst_eq_mergeSort_rank]
  exact Sorting.filter_mergeSort_rank _ issues _

/-- Only the order within each severity matters. -/
theorem worstIssuesFirst_congr
    {issues issues' : List CloudIssue}
    (hsame : ∀ severity, issuesOf severity issues' = issuesOf severity issues) :
    worstIssuesFirst issues' = worstIssuesFirst issues := by
  rw [worstIssuesFirst_eq_flatMap, worstIssuesFirst_eq_flatMap]
  exact List.flatMap_congr fun severity _ => hsame severity

end Order

/-! ## The section -/

/-- The text of an issue: what it is, where, and what is advised. -/
def issueText (issue : CloudIssue) : String :=
  "- **[" ++ issue.severity.label ++ "] " ++ issue.category ++ "**"
    ++ (issue.file.map fun file =>
        " (\x60" ++ file ++ "\x60" ++ (issue.line.map fun line => ":" ++ toString line).getD ""
          ++ ")").getD ""
    ++ ": " ++ issue.description ++ "\n"
    ++ (if issue.recommendation = "" then ""
        else "  - Recommendation: " ++ issue.recommendation ++ "\n")

/-- The section about the issues shows the sorted issues. -/
structure ListsIssues
    (issues sorted : List CloudIssue) : Prop where
  /-- No issue is lost, and none is repeated. -/
  perm : sorted.Perm issues
  descending : sorted.Pairwise fun a b => b.severity.level ≤ a.severity.level
  /-- The issues of one severity stand in the order of the report. -/
  stable : ∀ severity, issuesOf severity sorted = issuesOf severity issues
  /-- Each issue is shown by its text. -/
  shown :
    issuesSection issues =
      "## Issues\n\n" ++ (if issues = [] then "No issues found.\n\n" else "")
        ++ String.join (sorted.map issueText)

section Section

theorem issueItem_eq
    (issue : CloudIssue) :
    issueItem issue = issueText issue := by
  have hplace : location issue =
      (issue.file.map fun file =>
        " (\x60" ++ file ++ "\x60" ++ (issue.line.map fun line => ":" ++ toString line).getD ""
          ++ ")").getD "" := by
    have hnumbered : "\x60:" = "\x60" ++ ":" := by decide
    have hclosed : "\x60)" = "\x60" ++ ")" := by decide
    unfold location
    rw [hnumbered, hclosed]
    cases issue.file <;> cases issue.line <;>
      simp only [Option.map_none, Option.map_some, Option.getD_none, Option.getD_some,
        String.append_assoc, String.empty_append]
  unfold issueItem issueText
  simp only [hplace, String.isEmpty_iff]

variable (issues : List CloudIssue)

/-- Joining the passes joins the items of all of them. -/
theorem join_passes
    (severities : List Severity) :
    String.join (severities.map fun severity =>
        String.join ((issuesOf severity issues).map issueItem)) =
      String.join ((severities.flatMap fun severity => issuesOf severity issues).map issueItem) := by
  induction severities with
  | nil =>
      rfl
  | cons severity severities ih =>
      rw [List.map_cons, String.join_cons, ih, List.flatMap_cons, List.map_append,
        String.join_append]

theorem issuesSection_eq :
    issuesSection issues =
      "## Issues\n\n" ++ (if issues = [] then "No issues found.\n\n" else "")
        ++ String.join ((worstIssuesFirst issues).map issueText) := by
  have hitems : (worstIssuesFirst issues).map issueText = (worstIssuesFirst issues).map issueItem :=
    List.map_congr_left fun issue _ => (issueItem_eq issue).symm
  rw [hitems, worstIssuesFirst_eq_flatMap, ← join_passes, issuesSection]
  simp only [List.isEmpty_iff, issuesOf]

theorem listsIssues_worstIssuesFirst :
    ListsIssues issues (worstIssuesFirst issues) where
  perm := List.mergeSort_perm _ _
  descending := pairwise_worstIssuesFirst issues
  stable := issuesOf_worstIssuesFirst issues
  shown := issuesSection_eq issues

/-- The text of an issue begins with a dash. -/
theorem head?_issueText
    (issue : CloudIssue) :
    (issueText issue).toList.head? = some '-' := by
  unfold issueText
  simp only [String.append_assoc]
  rw [String.toList_append]
  rfl

/-- The section says that there are no issues right below its title if there are none. -/
theorem getElem?_lines_issuesSection :
    (Text.lines (issuesSection issues))[2]? = some "No issues found." ↔ issues = [] := by
  have htitle : Text.lines "## Issues\n\n" = ["## Issues", ""] := by decide
  have hwhole : Text.WholeLines "## Issues\n\n" := by decide
  have hthird : (Text.lines (issuesSection issues))[2]? =
      (Text.lines ((if issues = [] then "No issues found.\n\n" else "")
        ++ String.join ((worstIssuesFirst issues).map issueText)))[0]? := by
    rw [issuesSection_eq, String.append_assoc, Text.lines_append hwhole, htitle]
    rfl
  rw [hthird]
  constructor
  · intro hline
    by_contra hsome
    have hletter : "No issues found.".toList.head? = some 'N' := by decide
    have hfirst := Text.head?_of_first_line (by decide) (by decide) hline hletter
    rw [if_neg hsome, String.empty_append] at hfirst
    -- There is a first item, and it begins with a dash.
    cases hsorted : worstIssuesFirst issues with
    | nil =>
        have hperm := (listsIssues_worstIssuesFirst issues).perm
        rw [hsorted] at hperm
        exact hsome hperm.symm.eq_nil
    | cons first rest =>
        rw [hsorted, List.map_cons, String.join_cons, String.toList_append, List.head?_append,
          head?_issueText, Option.some_or] at hfirst
        cases hfirst
  · rintro rfl
    have hnone : worstIssuesFirst [] = [] := List.mergeSort_nil
    rw [if_pos rfl, hnone]
    decide

/-- Only the order within each severity is seen. -/
theorem issuesSection_congr
    {issues issues' : List CloudIssue}
    (hsame : ∀ severity, issuesOf severity issues' = issuesOf severity issues) :
    issuesSection issues' = issuesSection issues := by
  have hsorted := worstIssuesFirst_congr hsame
  have hperm : issues'.Perm issues := by
    have hsorts := (listsIssues_worstIssuesFirst issues').perm
    rw [hsorted] at hsorts
    exact hsorts.symm.trans (listsIssues_worstIssuesFirst issues).perm
  have hnone : issues' = [] ↔ issues = [] := by
    rw [← List.length_eq_zero_iff, hperm.length_eq, List.length_eq_zero_iff]
  rw [issuesSection_eq, issuesSection_eq, hsorted]
  simp only [hnone]

end Section

/-- The other sections of a page do not depend on the issues. -/
theorem cloud_eq_around_issues
    (report : CloudReport) :
    ∃ before after, ∀ issues,
      cloud { report with issues := issues } = before ++ issuesSection issues ++ after := by
  apply Exists.intro
  apply Exists.intro
  intro issues
  unfold cloud
  simp only
  with_reducible rfl

/--
The section about the issues shows the issues sorted by falling severity, those of one severity in the
order of the report, and its first line below the title says that there are no issues if and only if
there are none.  The rest of the page does not depend on the issues.  So a report has the same page as
another one that differs only in its issues and has, for each severity, the same ones in the same order.
-/
theorem issues_sorted_by_severity
    (report : CloudReport) :
    ListsIssues report.issues
        (report.issues.mergeSort fun a b => decide (b.severity.level ≤ a.severity.level)) ∧
      ((Text.lines (issuesSection report.issues))[2]? = some "No issues found." ↔
        report.issues = []) ∧
      (∃ before after, ∀ issues,
        cloud { report with issues := issues } = before ++ issuesSection issues ++ after) ∧
      ∀ issues, (∀ severity, issuesOf severity issues = issuesOf severity report.issues) →
        cloud { report with issues := issues } = cloud report := by
  obtain ⟨before, after, hpage⟩ := cloud_eq_around_issues report
  refine ⟨listsIssues_worstIssuesFirst _, getElem?_lines_issuesSection _,
    ⟨before, after, hpage⟩, ?_⟩
  intro issues hsame
  calc cloud { report with issues := issues }
      = before ++ issuesSection issues ++ after := hpage issues
    _ = before ++ issuesSection report.issues ++ after := by rw [issuesSection_congr hsame]
    _ = cloud report := (hpage report.issues).symm

/--
A critical issue between two mild ones may as well be the first one: the section shows it before them,
with its place and its advice as far as it has them.
-/
theorem interleaved_issues_same_page :
    let critical : CloudIssue :=
      ⟨"Security", .critical, "Secrets in the code.", "Move them out.", none, none⟩
    let logs : CloudIssue := ⟨"Logging", .low, "Logs are files.", "", some "a.py", some 1⟩
    let paths : CloudIssue := ⟨"Storage", .low, "Paths are fixed.", "", some "b.py", none⟩
    let report : CloudReport := { (default : CloudReport) with issues := [logs, critical, paths] }
    (∀ severity, issuesOf severity [critical, logs, paths] = issuesOf severity report.issues) ∧
      cloud { report with issues := [critical, logs, paths] } = cloud report ∧
      issuesSection report.issues =
        "## Issues\n\n"
          ++ "- **[Critical] Security**: Secrets in the code.\n  - Recommendation: Move them out.\n"
          ++ "- **[Low] Logging** (\x60a.py\x60:1): Logs are files.\n"
          ++ "- **[Low] Storage** (\x60b.py\x60): Paths are fixed.\n" := by
  intro critical logs paths report
  obtain ⟨hlists, -, -, hpages⟩ := issues_sorted_by_severity report
  have hsame : ∀ severity,
      issuesOf severity [critical, logs, paths] = issuesOf severity report.issues := by
    intro severity
    cases severity <;> rfl
  have hsorted : worstIssuesFirst report.issues = [critical, logs, paths] := by
    rw [← worstIssuesFirst_congr hsame]
    exact List.mergeSort_of_pairwise (by decide)
  have hshows : ListsIssues report.issues [critical, logs, paths] := hsorted ▸ hlists
  refine ⟨hsame, hpages _ hsame, hshows.shown.trans ?_⟩
  decide +kernel

end Markdown
end CodeAudit
