import CodeAudit.Proofs.LineRules
import CodeAudit.Proofs.Model.Unusable
import Mathlib.Data.List.Forall2

/-!
# A review is merged into the heuristic findings

A file may be shown to the model or not, the model may answer or not, and of an answer each finding
may have a score, a label or neither.  In all these cases the report of the file begins with the
heuristic findings, and a review that is used adds its findings behind them, its score and its
summary.

The report of a file depends on the files in front of it only through the conversation with the
model, so a scan is split at the file: the files in front give the conversation and the place of
the report.

**Results.**
* `scanFrom_append`: a scan goes on after some files where it is then.
* `scan_reports_at`: the report of a file, at its place.
* `review_eq_some_iff`: when a review is used.
* `fileReport_merges`: what a report holds, with a review and without.
* `scan_merges_reviews`: all of it for a file of a scan, and what no answer changes.
-/

namespace CodeAudit
namespace Security

/--
A review is received for a file: the file is in a reviewed language, there is a model, it answers the
prompt about the file, and the review can be read from its answer.
-/
def Scanner.Receives
    (scanner : Scanner)
    (earlier : List Prompt)
    (source : FileRecord × String)
    (review : Review) : Prop :=
  isReviewed source.1 = true ∧
    ∃ model answer, scanner.client = some model ∧
      model.answer earlier (promptFor scanner.limit source) = .ok answer ∧
      Review.ofAnswer? answer = some review

/-- A vulnerability of a file says what a finding of the model says. -/
structure ReviewFinding.Becomes
    (path : String)
    (finding : ReviewFinding)
    (v : Vulnerability) : Prop where
  file : v.file = path
  source : v.source = .model
  cve : v.cve = none
  /-- The kind is never blank, and it is that of the finding where that is not blank. -/
  named : Text.isBlankText v.kind = false
  kind : Text.isBlankText finding.kind = false → v.kind = finding.kind
  /-- A score decides, whatever the label says. -/
  scored : ∀ score, finding.score = some score → v.severity = .ofScore score
  labelled : finding.score = none → v.severity = .ofLabel finding.severity
  details :
    v.line = finding.line ∧ v.description = finding.description ∧
      v.recommendation = finding.recommendation ∧ v.score = finding.score

/-- The findings of a review, none if there is no review. -/
def reviewFindings (review : Option Review) : List ReviewFinding :=
  (review.map Review.findings).getD []

/-- A report merges the heuristic findings of a file with a review, if there is one. -/
structure Merges
    (source : FileRecord × String)
    (review : Option Review)
    (report : FileSecurityReport) : Prop where
  file : report.file = source.1.relativePath
  language : report.language = source.1.language
  /-- The findings of the review follow the heuristic ones, one by one and in order. -/
  findings :
    ∃ found,
      report.vulnerabilities = heuristicFindings source.1.relativePath source.2 ++ found ∧
        List.Forall₂ (ReviewFinding.Becomes source.1.relativePath) (reviewFindings review) found
  heuristic :
    report.heuristicScore = heuristicScore (heuristicFindings source.1.relativePath source.2)
  /-- The score of the model is clamped to the interval from 0 to 10. -/
  model : report.modelScore = (review.bind Review.riskScore).map (Floating.clamp 0 10)
  bounded :
    ∀ score, report.modelScore = some score →
      Floating.less score 0 = false ∧ Floating.less 10 score = false
  /-- With a score of the model the risk is the mean of both scores. -/
  mean :
    ∀ score, report.modelScore = some score →
      report.riskScore = (report.heuristicScore + score) / 2
  /-- Without one, also if there is a review, the risk is the heuristic score. -/
  alone : report.modelScore = none → report.riskScore = report.heuristicScore
  severity : report.severity = .ofScore report.riskScore
  summary : report.modelSummary = review.bind Review.summary

/-- The part of a report that the heuristics found. -/
def heuristicPart (report : FileSecurityReport) : List Vulnerability :=
  report.vulnerabilities.filter fun v => decide (v.source = .heuristic)

section Split

variable (scanner : Scanner) (read : ReadFile)

/-- There is one report for each readable file. -/
theorem length_scanFrom_reports
    (total position : Nat)
    (earlier : List Prompt)
    (files : List FileRecord) :
    (scanFrom scanner read total position earlier files).reports.length =
      (readableFiles read files).length := by
  induction files generalizing position earlier with
  | nil =>
      rfl
  | cons file rest ih =>
      cases hread : read file with
      | none =>
          rw [scanFrom_cons_unreadable _ _ _ _ _ hread,
            readableFiles_cons_unreadable read hread]
          exact ih (position + 1) earlier
      | some content =>
          rw [scanFrom_cons_readable _ _ _ _ _ hread,
            readableFiles_cons_readable read hread]
          simp [ih]

/-- The numbers on the console do not enter the conversation. -/
theorem scanFrom_prompts_congr
    (total total' position position' : Nat)
    (earlier : List Prompt)
    (files : List FileRecord) :
    (scanFrom scanner read total position earlier files).prompts =
      (scanFrom scanner read total' position' earlier files).prompts := by
  induction files generalizing position position' earlier with
  | nil =>
      rfl
  | cons file rest ih =>
      cases hread : read file with
      | none =>
          simp only [scanFrom_cons_unreadable _ _ _ _ _ hread]
          exact ih (position + 1) (position' + 1) earlier
      | some content =>
          simp only [scanFrom_cons_readable _ _ _ _ _ hread]
          exact ih (position + 1) (position' + 1) _

/-- After some files a scan goes on with the conversation and the position it has then. -/
theorem scanFrom_append
    (total position : Nat)
    (earlier : List Prompt)
    (before after : List FileRecord) :
    let front := scanFrom scanner read total position earlier before
    let back := scanFrom scanner read total (position + before.length) front.prompts after
    scanFrom scanner read total position earlier (before ++ after) =
      ⟨front.reports ++ back.reports, front.skipped + back.skipped,
        front.console ++ back.console, back.prompts⟩ := by
  induction before generalizing position earlier with
  | nil =>
      simp [scanFrom]
  | cons file rest ih =>
      have hposition : position + (rest.length + 1) = position + 1 + rest.length := by
        omega
      cases hread : read file with
      | none =>
          simp only [List.cons_append, List.length_cons, hposition,
            scanFrom_cons_unreadable _ _ _ _ _ hread, ih, Nat.add_right_comm]
      | some content =>
          simp only [List.cons_append, List.length_cons, hposition,
            scanFrom_cons_readable _ _ _ _ _ hread, ih]

/-- The report of a readable file, at the place that the readable files in front of it give. -/
theorem scan_reports_at
    (earlier : List Prompt)
    (before : List FileRecord)
    {file : FileRecord}
    {content : String}
    (hread : read file = some content)
    (after : List FileRecord) :
    (scan scanner read earlier (before ++ file :: after)).reports[
        (readableFiles read before).length]? =
      some (fileReport file content
        (review scanner (scan scanner read earlier before).prompts file content).1) := by
  have hprompts := scanFrom_prompts_congr scanner read (before ++ file :: after).length
    before.length 1 1 earlier before
  have hlength := length_scanFrom_reports scanner read (before ++ file :: after).length 1
    earlier before
  simp only [scan, scanFrom_append]
  rw [← hlength, List.getElem?_append_right (Nat.le_refl _), Nat.sub_self,
    scanFrom_cons_readable _ _ _ _ _ hread, hprompts]
  rfl

end Split

section Review

/-- A review is used exactly if it is received. -/
theorem review_eq_some_iff
    {scanner : Scanner}
    {earlier : List Prompt}
    {file : FileRecord}
    {content : String}
    {received : Review} :
    (review scanner earlier file content).1 = some received ↔
      scanner.Receives earlier (file, content) received := by
  cases hreviewed : isReviewed file with
  | false =>
      rw [review_of_not_reviewed _ _ _ hreviewed]
      simp [Scanner.Receives, hreviewed]
  | true =>
      simp only [review, hreviewed, if_true, ask_bind_eq_some_iff, Scanner.Receives, true_and]
      rfl

theorem ReviewFinding.becomes_toVulnerability
    (finding : ReviewFinding)
    (path : String) :
    finding.Becomes path (finding.toVulnerability path) where
  file := rfl
  source := rfl
  cve := rfl
  named := by
    cases hblank : Text.isBlankText finding.kind with
    | false =>
        simp [toVulnerability, hblank]
    | true =>
        simp only [toVulnerability, hblank, if_true]
        decide
  kind hkind := by
    simp [toVulnerability, hkind]
  scored score hscore := by
    simp [toVulnerability, hscore]
  labelled hscore := by
    simp [toVulnerability, hscore]
  details := ⟨rfl, rfl, rfl, rfl⟩

/-- No number leaves the interval it is clamped to. -/
theorem clamp_bounded
    (x : Floating) :
    Floating.less (Floating.clamp 0 10 x) 0 = false ∧
      Floating.less 10 (Floating.clamp 0 10 x) = false := by
  unfold Floating.clamp
  split
  case isTrue hbelow =>
    decide +kernel
  case isFalse hbelow =>
    split
    case isTrue habove =>
      decide +kernel
    case isFalse habove =>
      exact ⟨Bool.eq_false_iff.mpr hbelow, Bool.eq_false_iff.mpr habove⟩

/-- Whether there is a review or not, the report merges it with the heuristic findings. -/
theorem fileReport_merges
    (file : FileRecord)
    (content : String)
    (review : Option Review) :
    Merges (file, content) review (fileReport file content review) where
  file := rfl
  language := rfl
  findings := by
    refine ⟨(reviewFindings review).map fun finding =>
      finding.toVulnerability file.relativePath, rfl, ?_⟩
    rw [List.forall₂_map_right_iff]
    exact List.forall₂_same.mpr fun finding _ => finding.becomes_toVulnerability _
  heuristic := rfl
  model := rfl
  bounded score hscore := by
    obtain ⟨given, -, rfl⟩ := Option.map_eq_some_iff.mp hscore
    exact clamp_bounded given
  mean score hscore := by
    have hmodel : (review.bind Review.riskScore).map (Floating.clamp 0 10) = some score := hscore
    simp only [fileReport, hmodel]
  alone hscore := by
    have hmodel : (review.bind Review.riskScore).map (Floating.clamp 0 10) = none := hscore
    simp only [fileReport, hmodel]
  severity := rfl
  summary := rfl

end Review

section Sources

/-- The heuristics say of themselves that they found something. -/
theorem source_of_mem_findingsFrom
    {path : String}
    {number : Nat}
    {lines : List String}
    {v : Vulnerability}
    (hv : v ∈ findingsFrom path number lines) :
    v.source = .heuristic := by
  obtain ⟨index, line, -, -, rule, -, -, rfl⟩ := mem_findingsFrom_iff.mp hv
  rfl

/-- What becomes of the findings of a review is marked as found by the model. -/
theorem source_of_mem_becomes
    {path : String}
    {findings : List ReviewFinding}
    {found : List Vulnerability}
    (hbecome : List.Forall₂ (ReviewFinding.Becomes path) findings found)
    {v : Vulnerability}
    (hv : v ∈ found) :
    v.source = .model := by
  induction hbecome with
  | nil =>
      cases hv
  | cons hfirst _ ih =>
      rcases List.mem_cons.mp hv with rfl | hrest
      · exact hfirst.source
      · exact ih hrest

/-- The heuristic part of a report is the same whatever the review says. -/
theorem heuristicPart_of_merges
    {source : FileRecord × String}
    {review : Option Review}
    {report : FileSecurityReport}
    (hmerges : Merges source review report) :
    heuristicPart report = heuristicFindings source.1.relativePath source.2 := by
  obtain ⟨found, hfindings, hbecome⟩ := hmerges.findings
  have hheuristic : ∀ v ∈ heuristicFindings source.1.relativePath source.2,
      decide (v.source = .heuristic) = true := by
    intro v hv
    simp [source_of_mem_findingsFrom hv]
  have hfound : ∀ v ∈ found, ¬ decide (v.source = .heuristic) = true := by
    intro v hv
    simp [source_of_mem_becomes hbecome hv]
  rw [heuristicPart, hfindings, List.filter_append, List.filter_eq_self.mpr hheuristic,
    List.filter_eq_nil_iff.mpr hfound, List.append_nil]

end Sources

/--
A scan merges what the model says about a file into what the heuristics found in it.

The report of a readable file stands at the place that the readable files in front of it give.  A
review is used exactly if it is received, and then its findings follow the heuristic ones, none lost
and none changed but for a blank kind; the risk is the mean of both scores if the review has one, and
the heuristic score otherwise.  Another model, other answers or an earlier conversation change
neither the heuristic findings in the report nor their score.
-/
theorem scan_merges_reviews
    (scanner : Scanner)
    (read : ReadFile)
    (earlier : List Prompt)
    (before : List FileRecord)
    (file : FileRecord)
    (after : List FileRecord)
    (content : String)
    (hread : read file = some content) :
    let place := (readableFiles read before).length
    let asked := (scan scanner read earlier before).prompts
    ∃ report review,
      (scan scanner read earlier (before ++ file :: after)).reports[place]? = some report ∧
      (∀ received,
        review = some received ↔ scanner.Receives asked (file, content) received) ∧
      Merges (file, content) review report ∧
      heuristicPart report = heuristicFindings file.relativePath content ∧
      ∀ (other : Scanner) (otherwise : List Prompt),
        ∃ changed,
          (scan other read otherwise (before ++ file :: after)).reports[place]? = some changed ∧
            heuristicPart changed = heuristicPart report ∧
            changed.heuristicScore = report.heuristicScore := by
  intro place asked
  have hreport := scan_reports_at scanner read earlier before hread after
  have hmerges := fileReport_merges file content (review scanner asked file content).1
  have hpart := heuristicPart_of_merges hmerges
  refine ⟨_, _, hreport, fun received => review_eq_some_iff, hmerges, hpart, ?_⟩
  intro other otherwise
  have hchanged := scan_reports_at other read otherwise before hread after
  have hmerged := fileReport_merges file content
    (review other (scan other read otherwise before).prompts file content).1
  refine ⟨_, hchanged, ?_, ?_⟩
  · rw [heuristicPart_of_merges hmerged, hpart]
  · rw [hmerged.heuristic, hmerges.heuristic]

/-- An answer with one finding, of a blank kind and with a label that its score contradicts. -/
def contradictoryAnswer : String :=
  "\x7b\"vulnerabilities\": [\x7b\"type\": \" \", \"severity\": \"low\", \"score\": 9.5\x7d], \"summary\": \"weak\"\x7d"

/-- The review in that answer. -/
def contradictoryReview : Review where
  findings := [⟨" ", "low", none, "", none, some (.num (19 / 2))⟩]
  riskScore := none
  summary := some "weak"

/--
The second file of a scan gets the second answer: its finding follows the heuristic one and is
critical, and since the answer has no score the risk is the heuristic one.
-/
theorem contradictory_review_merged :
    let read : ReadFile := fun _ => some "result = eval(text)"
    let scanner :=
      scriptedScanner "scripted" [.error "timeout", .ok contradictoryAnswer] 100
    let before := [sampleFile "a.py" "python"]
    let file := sampleFile "b.py" "python"
    read file = some "result = eval(text)" ∧
      ∃ report,
        (scan scanner read [] (before ++ file :: [])).reports[1]? = some report ∧
          Merges (file, "result = eval(text)") (some contradictoryReview) report ∧
          report.vulnerabilities.map Vulnerability.severity = [.high, .critical] ∧
          report.riskScore = .num (17 / 2) := by
  intro read scanner before file
  have hread : read file = some "result = eval(text)" := rfl
  obtain ⟨report, review, hreport, hreview, hmerges, -, -⟩ :=
    scan_merges_reviews scanner read [] before file [] "result = eval(text)" hread
  have hreceived : scanner.Receives (scan scanner read [] before).prompts
      (file, "result = eval(text)") contradictoryReview :=
    ⟨by decide, _, contradictoryAnswer, rfl, rfl, by decide +kernel⟩
  rw [(hreview contradictoryReview).mpr hreceived] at hmerges
  have hflagged : (heuristicFindings "b.py" "result = eval(text)").map Vulnerability.severity =
      [.high] := by
    decide +kernel
  obtain ⟨found, hfindings, hbecome⟩ := hmerges.findings
  refine ⟨hread, report, hreport, hmerges, ?_, ?_⟩
  · cases hbecome with
    | cons hfirst hnone =>
        cases hnone
        have hscored := hfirst.scored (.num (19 / 2)) rfl
        rw [hfindings, List.map_append, List.map_singleton, hscored]
        exact congrArg₂ (· ++ ·) hflagged (by decide +kernel)
  · rw [hmerges.alone hmerges.model, hmerges.heuristic]
    decide +kernel

end Security
end CodeAudit
