import CodeAudit.Project.Audit
import CodeAudit.Proofs.Finding.Tally
import CodeAudit.Proofs.Security.Merging
import Mathlib.Algebra.GroupWithZero.Nat

/-!
# The headline numbers of a security report

The findings of a scan are listed in two places: file by file, and in the outcome of the dependency
scan if there is one.  The numbers at the head of the report are computed from both, so they must be
what a reader gets who counts in the report.

All of the numbers but the mean risk depend only on how often each severity is listed, so they are
the same for the reports in any order.  If the project lists its files in another order, the model may
be asked other questions after other ones.  A model whose answers are settled by the prompt gives each
file the same report as before; a model whose answers are settled by their number gives the files
other reports, but on the whole its findings are the same.

**Results.**
* `of_describes`: the numbers are those of the lists.
* `of_sameCounts`: they depend only on the severities that are listed.
* `severities_scanFrom_of_place`: the severities of a scan with a model that answers by number.
* `summary_sameCounts_of_perm`: the order of the files of a scan does not matter.
* `headline_describes_report`: all of it for a scanned project.
-/

namespace CodeAudit

/--
What a model answers is settled by the prompt alone, or by the number of prompts before it alone.
-/
inductive Client.Settled (client : Client) : Prop where
  | byPrompt
      (heq : ∀ earlier earlier' prompt,
        client.answer earlier prompt = client.answer earlier' prompt)
  | byPlace
      (heq : ∀ earlier earlier' prompt prompt', earlier.length = earlier'.length →
        client.answer earlier prompt = client.answer earlier' prompt')

/-- The answers of a script are settled by their number. -/
theorem Client.settled_scripted
    (description : String)
    (answers : List (Except String String)) :
    (Client.scripted description answers).Settled := by
  apply Settled.byPlace
  intro earlier earlier' prompt prompt' hlength
  simp only [scripted, hlength]

namespace SecuritySummary

/-- The findings of a dependency scan, none if there was no scan. -/
def dependencyFindings (dependencyScan : Option DependencyOutcome) : List Vulnerability :=
  (dependencyScan.map DependencyOutcome.vulnerabilities).getD []

/-- How many of the listed findings have a severity. -/
def listed
    (findings : List Vulnerability)
    (severity : Severity) : Nat :=
  findings.countP fun finding => decide (finding.severity = severity)

/-- The numbers at the head of a report are those of the files and of the dependency scan in it. -/
structure Describes
    (summary : SecuritySummary)
    (files : List FileSecurityReport)
    (dependencyScan : Option DependencyOutcome) : Prop where
  scanned : summary.filesScanned = files.length
  total :
    summary.totalFindings =
      (files.map fun file => file.vulnerabilities.length).sum +
        (dependencyFindings dependencyScan).length
  severities :
    ∀ severity,
      summary.severityCounts.get severity =
        (files.map fun file => listed file.vulnerabilities severity).sum +
          listed (dependencyFindings dependencyScan) severity
  counted : summary.severityCounts.total = summary.totalFindings
  none_highest : summary.highestSeverity = none ↔ summary.totalFindings = 0
  /-- The highest severity is listed, and no severity above it is. -/
  highest :
    ∀ severity,
      summary.highestSeverity = some severity ↔
        summary.severityCounts.get severity ≠ 0 ∧
          ∀ above, severity.level < above.level → summary.severityCounts.get above = 0

/-- Two summaries have the same numbers, the mean risk apart. -/
structure SameCounts (first second : SecuritySummary) : Prop where
  scanned : first.filesScanned = second.filesScanned
  skipped : first.filesSkipped = second.filesSkipped
  total : first.totalFindings = second.totalFindings
  severities : first.severityCounts = second.severityCounts
  highest : first.highestSeverity = second.highestSeverity

/-- The severities of the findings in the report of a file. -/
def severitiesIn (report : FileSecurityReport) : List Severity :=
  report.vulnerabilities.map Vulnerability.severity

section Summary

/-- The severities of all findings, first those of the files and then those of the dependencies. -/
theorem map_severity_allFindings
    (files : List FileSecurityReport)
    (dependencyScan : Option DependencyOutcome) :
    (allFindings files dependencyScan).map Vulnerability.severity =
      files.flatMap severitiesIn ++
        (dependencyFindings dependencyScan).map Vulnerability.severity := by
  rw [allFindings, List.map_append, List.map_flatMap]
  rfl

/-- The counts of a list of severities determine its worst severity. -/
theorem worst?_eq_some_iff_tally
    (severities : List Severity)
    (severity : Severity) :
    Severity.worst? severities = some severity ↔
      (SeverityCounts.tally severities).get severity ≠ 0 ∧
        ∀ above, severity.level < above.level →
          (SeverityCounts.tally severities).get above = 0 := by
  simp only [Severity.worst?_eq_some_iff, SeverityCounts.get_tally, ne_eq, List.count_eq_zero,
    not_not]
  apply and_congr_right
  intro _
  constructor
  · intro hbound above hlevel hmem
    exact absurd (hbound above hmem) (Nat.not_le.mpr hlevel)
  · intro hnone other hmem
    exact Nat.not_lt.mp fun hlevel => hnone other hlevel hmem

/-- The numbers of a summary are those of the lists that it is computed from. -/
theorem of_describes
    (files : List FileSecurityReport)
    (skipped : Nat)
    (dependencyScan : Option DependencyOutcome) :
    (SecuritySummary.of files skipped dependencyScan).Describes files dependencyScan where
  scanned := rfl
  total := by
    rw [SecuritySummary.of, SeverityCounts.total_tally, List.length_map, allFindings,
      List.length_append, List.length_flatMap]
    rfl
  severities severity := by
    rw [SecuritySummary.of, SeverityCounts.get_tally_map Vulnerability.severity, allFindings,
      List.countP_append, List.countP_flatMap]
    rfl
  counted := rfl
  none_highest := by
    rw [SecuritySummary.of, SeverityCounts.total_tally, List.length_eq_zero_iff,
      Severity.worst?_eq_none_iff]
  highest := worst?_eq_some_iff_tally _

/-- Two summaries agree if the same severities are listed for their files, in any order. -/
theorem of_sameCounts
    {files files' : List FileSecurityReport}
    (hlength : files.length = files'.length)
    (hseverities : (files.flatMap severitiesIn).Perm (files'.flatMap severitiesIn))
    (skipped : Nat)
    (dependencyScan : Option DependencyOutcome) :
    SameCounts (SecuritySummary.of files skipped dependencyScan)
      (SecuritySummary.of files' skipped dependencyScan) := by
  have hall :
      ((allFindings files dependencyScan).map Vulnerability.severity).Perm
        ((allFindings files' dependencyScan).map Vulnerability.severity) := by
    rw [map_severity_allFindings, map_severity_allFindings]
    exact hseverities.append_right _
  have htally := SeverityCounts.tally_perm hall
  exact ⟨hlength, rfl, congrArg SeverityCounts.total htally, htally, Severity.worst?_perm hall⟩

end Summary

end SecuritySummary

namespace Security

open SecuritySummary

/-- The severities of what a review adds to the report of a file. -/
def reviewSeverities (review : Option Review) : List Severity :=
  (reviewFindings review).map fun finding => (finding.toVulnerability "").severity

/-- The severities of what the heuristics find in a readable file. -/
def flaggedSeverities (source : FileRecord × String) : List Severity :=
  (heuristicFindings source.1.relativePath source.2).map Vulnerability.severity

/-- The review in the answer that a model gives after some number of prompts, whichever they are. -/
def answeredReview
    (client : Client)
    (place : Nat) : Option Review :=
  (client.answer (List.replicate place default) default).toOption.bind Review.ofAnswer?

section Order

variable (read : ReadFile)

theorem readableFiles_perm
    {files files' : List FileRecord}
    (hperm : files.Perm files') :
    (readableFiles read files).Perm (readableFiles read files') := by
  exact hperm.filterMap _

/-- Where a file is does not matter to the severities that a review gives it. -/
theorem severitiesIn_fileReport
    (file : FileRecord)
    (content : String)
    (review : Option Review) :
    severitiesIn (fileReport file content review) =
      flaggedSeverities (file, content) ++ reviewSeverities review := by
  rw [severitiesIn, fileReport, List.map_append, List.map_map]
  rfl

/-- A model that answers by the prompt gives a file the same review whatever it was asked before. -/
theorem review_of_prompt
    {client : Client}
    (heq : ∀ earlier earlier' prompt,
      client.answer earlier prompt = client.answer earlier' prompt)
    (limit : Nat)
    (earlier : List Prompt)
    (file : FileRecord)
    (content : String) :
    (review ⟨some client, limit⟩ earlier file content).1 =
      (review ⟨some client, limit⟩ [] file content).1 := by
  simp only [review, ask, heq earlier []]
  split <;> rfl

theorem review_of_place
    {client : Client}
    (heq : ∀ earlier earlier' prompt prompt', earlier.length = earlier'.length →
      client.answer earlier prompt = client.answer earlier' prompt')
    (limit : Nat)
    (earlier : List Prompt)
    {file : FileRecord}
    (content : String)
    (hreviewed : isReviewed file = true) :
    review ⟨some client, limit⟩ earlier file content =
      (answeredReview client earlier.length,
        earlier ++ [promptFor limit (file, content)]) := by
  have hanswer := heq earlier (List.replicate earlier.length default)
    (promptFor limit (file, content)) default List.length_replicate.symm
  simp only [promptFor] at hanswer
  simp only [review, hreviewed, if_true, ask, hanswer, answeredReview, promptFor]

/--
With a model that answers by number, the severities of a scan are those of the heuristic findings and
those of as many answers as there are files to review.
-/
theorem severities_scanFrom_of_place
    {client : Client}
    (heq : ∀ earlier earlier' prompt prompt', earlier.length = earlier'.length →
      client.answer earlier prompt = client.answer earlier' prompt')
    (limit total position : Nat)
    (earlier : List Prompt)
    (files : List FileRecord) :
    ((scanFrom ⟨some client, limit⟩ read total position earlier files).reports.flatMap
        severitiesIn).Perm
      ((readableFiles read files).flatMap flaggedSeverities ++
        (List.range' earlier.length
            ((readableFiles read files).countP fun source => isReviewed source.1)).flatMap
          fun place => reviewSeverities (answeredReview client place)) := by
  induction files generalizing position earlier with
  | nil =>
      exact List.Perm.refl _
  | cons file rest ih =>
      cases hread : read file with
      | none =>
          rw [scanFrom_cons_unreadable _ _ _ _ _ hread,
            readableFiles_cons_unreadable read hread]
          exact ih (position + 1) earlier
      | some content =>
          rw [scanFrom_cons_readable _ _ _ _ _ hread,
            readableFiles_cons_readable read hread, List.flatMap_cons, List.flatMap_cons,
            severitiesIn_fileReport]
          cases hreviewed : isReviewed file with
          | false =>
              rw [review_of_not_reviewed _ _ _ hreviewed,
                List.countP_cons_of_neg (by simp [hreviewed]), List.append_assoc,
                List.append_assoc]
              exact (ih (position + 1) earlier).append_left _
          | true =>
              have hrest := ih (position + 1) (earlier ++ [promptFor limit (file, content)])
              rw [List.length_append, List.length_singleton] at hrest
              rw [review_of_place heq _ _ _ hreviewed,
                List.countP_cons_of_pos (by simpa using hreviewed), List.range'_succ,
                List.flatMap_cons, List.append_assoc, List.append_assoc]
              -- The findings of this answer move behind the heuristic findings of the rest.
              exact ((hrest.append_left _).trans (List.perm_append_comm_assoc _ _ _)).append_left _

/-- The severities that a scan lists do not depend on the order of its files. -/
theorem severities_scan_perm
    {client : Option Client}
    (hsettled : ∀ model, client = some model → model.Settled)
    (limit : Nat)
    (earlier : List Prompt)
    {files files' : List FileRecord}
    (hperm : files.Perm files') :
    ((scan ⟨client, limit⟩ read earlier files).reports.flatMap severitiesIn).Perm
      ((scan ⟨client, limit⟩ read earlier files').reports.flatMap severitiesIn) := by
  have hreadable := readableFiles_perm read hperm
  -- Where reviews depend on the file alone, the reports themselves are permuted.
  have hfixed : ∀ given : FileRecord → String → Option Review,
      (∀ earlier file content,
        (review ⟨client, limit⟩ earlier file content).1 = given file content) →
      ((scan ⟨client, limit⟩ read earlier files).reports.flatMap severitiesIn).Perm
        ((scan ⟨client, limit⟩ read earlier files').reports.flatMap severitiesIn) := by
    intro given hgiven
    rw [scan, scan, scanFrom_reports_eq_map read _ hgiven,
      scanFrom_reports_eq_map read _ hgiven]
    exact (hreadable.map _).flatMap_right _
  cases client with
  | none =>
      exact hfixed (fun _ _ => none) (silent_without_client limit)
  | some model =>
      cases hsettled model rfl with
      | byPrompt heq =>
          exact hfixed _ (review_of_prompt heq limit)
      | byPlace heq =>
          have hfront := severities_scanFrom_of_place read heq limit files.length 1 earlier files
          have hback := severities_scanFrom_of_place read heq limit files'.length 1 earlier files'
          rw [hreadable.countP_eq] at hfront
          exact hfront.trans (((hreadable.flatMap_right _).append_right _).trans hback.symm)

end Order

end Security

namespace Project

open SecuritySummary

/-- The dependencies are scanned unless this is to be skipped or the scanner is disabled. -/
theorem isSome_scanDependencies
    (around : Surroundings)
    (project : Prepared)
    (session : Session)
    (skip : Bool) :
    (scanDependencies around project session skip).result.isSome = true ↔
      skip = false ∧ project.config.scanner.enabled = true := by
  unfold scanDependencies
  cases skip <;> cases project.config.scanner.enabled <;> simp

/-- Neither the files of a project nor the conversation change the outcome of a dependency scan. -/
theorem result_scanDependencies
    (around : Surroundings)
    (project : Prepared)
    (session : Session)
    (skip : Bool)
    (files : List FileRecord)
    (prompts : List Prompt) :
    (scanDependencies around { project with files := files }
        { session with prompts := prompts } skip).result =
      (scanDependencies around project session skip).result := by
  unfold scanDependencies
  split <;> rfl

/-- The report of a project is that of its scan and of its dependency scan. -/
theorem result_scanVulnerabilities
    (around : Surroundings)
    (project : Prepared)
    (occasion : Occasion)
    (session : Session)
    (skip : Bool) :
    let scanned := Security.scan ⟨project.client, project.config.model.maxFileChars⟩
      (reading session.files) session.prompts project.files
    let dependencyScan := (scanDependencies around project session skip).result
    (scanVulnerabilities around project occasion session skip).result =
      { metadata := metadata project occasion "scan"
        summary := SecuritySummary.of scanned.reports scanned.skipped dependencyScan
        files := scanned.reports
        dependencyScan := dependencyScan } := by
  intro scanned dependencyScan
  have hdependencies :=
    result_scanDependencies around project session skip project.files scanned.prompts
  rw [scanVulnerabilities]
  simp only [scanned, dependencyScan, ← hdependencies]

/-- A file that a scan is given is either reported or skipped. -/
theorem length_reports_add_skipped
    (scanner : Security.Scanner)
    (read : ReadFile)
    (earlier : List Prompt)
    (files : List FileRecord) :
    let scanned := Security.scan scanner read earlier files
    scanned.reports.length + scanned.skipped = files.length := by
  intro scanned
  simp only [scanned, Security.scan]
  rw [Security.length_scanFrom_reports, Security.scanFrom_skipped]
  exact Security.length_readableFiles_add_unreadable read files

/-- In what order a scan is given its files does not matter to the numbers, the mean risk apart. -/
theorem summary_sameCounts_of_perm
    {client : Option Client}
    (hsettled : ∀ model, client = some model → model.Settled)
    (limit : Nat)
    (read : ReadFile)
    (earlier : List Prompt)
    {files files' : List FileRecord}
    (hperm : files.Perm files')
    {dependencyScan dependencyScan' : Option DependencyOutcome}
    (hdependencies : dependencyScan = dependencyScan') :
    let scanned := Security.scan ⟨client, limit⟩ read earlier files
    let scanned' := Security.scan ⟨client, limit⟩ read earlier files'
    SameCounts (SecuritySummary.of scanned.reports scanned.skipped dependencyScan)
      (SecuritySummary.of scanned'.reports scanned'.skipped dependencyScan') := by
  intro scanned scanned'
  have hlength : scanned.reports.length = scanned'.reports.length := by
    simp only [scanned, scanned', Security.scan, Security.length_scanFrom_reports]
    exact (Security.readableFiles_perm read hperm).length_eq
  have hskipped : scanned.skipped = scanned'.skipped := by
    simp only [scanned, scanned', Security.scan, Security.scanFrom_skipped]
    exact hperm.countP_eq _
  rw [hskipped, hdependencies]
  exact of_sameCounts hlength
    (Security.severities_scan_perm read hsettled limit earlier hperm) _ _

/--
The head of a security report describes the report.

The numbers are those of the findings that the report lists, file by file and for the dependencies;
each file of the project is either scanned or skipped, the latter if it cannot be read; and there is a
dependency scan unless it is to be skipped or disabled.  None of the numbers but the mean risk changes
if the files of the report are permuted, nor if the files of the project are and the model does not
answer by what it was asked before.
-/
theorem headline_describes_report
    (around : Surroundings)
    (project : Prepared)
    (occasion : Occasion)
    (session : Session)
    (skip : Bool) :
    let report := (scanVulnerabilities around project occasion session skip).result
    report.summary.Describes report.files report.dependencyScan ∧
      report.summary.filesScanned + report.summary.filesSkipped = project.files.length ∧
      report.summary.filesSkipped =
        project.files.countP (fun file => (reading session.files file).isNone) ∧
      (report.dependencyScan.isSome = true ↔
        skip = false ∧ project.config.scanner.enabled = true) ∧
      (∀ files, files.Perm report.files →
        SameCounts
          (SecuritySummary.of files report.summary.filesSkipped report.dependencyScan)
          report.summary) ∧
      ∀ files, files.Perm project.files →
        (∀ model, project.client = some model → model.Settled) →
          SameCounts
            (scanVulnerabilities around { project with files := files } occasion session
              skip).result.summary
            report.summary := by
  intro report
  have hreport : report = _ :=
    result_scanVulnerabilities around project occasion session skip
  refine ⟨?_, ?_, ?_, ?_, ?_, ?_⟩
  · rw [hreport]
    exact of_describes _ _ _
  · rw [hreport]
    exact length_reports_add_skipped _ _ _ _
  · rw [hreport]
    exact Security.scanFrom_skipped (reading session.files) _ _ _ _ _
  · rw [hreport]
    exact isSome_scanDependencies around project session skip
  · intro files hperm
    rw [hreport] at hperm ⊢
    exact of_sameCounts hperm.length_eq (hperm.flatMap_right _) _ _
  · intro files hperm hsettled
    have hother :=
      result_scanVulnerabilities around { project with files := files } occasion session skip
    have hdependencies :=
      result_scanDependencies around project session skip files session.prompts
    rw [hreport, hother]
    exact summary_sameCounts_of_perm hsettled _ _ _ hperm hdependencies

/-- A machine with a project of two files. -/
def sampleFiles : FileSystem where
  root := .directory
    [("p", .directory
      [("a.py", .file "eval(text)".toUTF8 0), ("b.py", .file "1".toUTF8 0)])]
  current := []
  now := 0

/--
One answer of a script goes to whichever file comes first, so that the reports differ, and so do not
the counts.
-/
theorem permuted_project_same_counts :
    let around : Surroundings :=
      { programs := fun _ => none, transport := fun _ _ => none, temporary := "tmp", unique := "1" }
    let first := Security.sampleFile "a.py" "python"
    let second := Security.sampleFile "b.py" "python"
    let gone := Security.sampleFile "gone.py" "python"
    let client := Client.scripted "scripted" [.ok Security.contradictoryAnswer]
    let project : Prepared := ⟨Config.default, "p", [first, gone, second], some client⟩
    let occasion : Occasion := ⟨default, "now"⟩
    let session : Session := ⟨sampleFiles, []⟩
    let files := [second, gone, first]
    let report := (scanVulnerabilities around project occasion session true).result
    let permuted :=
      (scanVulnerabilities around { project with files := files } occasion session true).result
    files.Perm project.files ∧
      client.Settled ∧
      report.files.map severitiesIn = [[.high, .critical], []] ∧
      permuted.files.map severitiesIn = [[.critical], [.high]] ∧
      SameCounts permuted.summary report.summary ∧
      SameCounts
        (SecuritySummary.of report.files.reverse report.summary.filesSkipped
          report.dependencyScan)
        report.summary := by
  intro around first second gone client project occasion session files report permuted
  have hperm : files.Perm project.files := by
    decide
  have hsettled : client.Settled := Client.settled_scripted _ _
  obtain ⟨-, -, -, -, hreports, hfiles⟩ :=
    headline_describes_report around project occasion session true
  refine ⟨hperm, hsettled, by decide +kernel, by decide +kernel, ?_, ?_⟩
  · apply hfiles files hperm
    rintro model ⟨⟩
    exact hsettled
  · exact hreports _ (List.reverse_perm _)

end Project
end CodeAudit
