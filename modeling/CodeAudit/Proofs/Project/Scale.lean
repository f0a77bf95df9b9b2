import CodeAudit.Migration.Analyze
import CodeAudit.Proofs.Cloud.ExactScore
import CodeAudit.Proofs.Floating.Bounds
import CodeAudit.Proofs.Json.Records
import CodeAudit.Proofs.Project.Headline
import Mathlib.Algebra.Order.BigOperators.Group.List

/-!
# The scale of scores

All scores lie on the scale from 0 to 10.  Static scores are cut off at the ends of the scale, and
so are the scores of a model, which are numbers since no JSON text stands for anything else.  Means
and tenths of scores on the scale stay on it, because the ends of the scale are numbers of the
format and rounding does not cross such a number.

The mean over the files of a scan is the one place where this needs a bound: the sum is exact at
multiples of ten only as far as integers are, which is up to `2 ^ 53`.  In exact arithmetic the mean
stays on the scale for any number of files.

**Results.**
* `onScale_clamp`, `onScale_minimum`, `OnScale.midpoint`, `OnScale.roundTenth`: what puts a number on
  the scale and keeps it there.
* `scored_of_mem_scanFrom`: the scores in the reports of a scan.
* `onScale_mean`, `mean_bounded`: the mean over the files.
* `onScale_heuristicScore`, `Cloud.scored_report`: the scores of a cloud report.
* `onScale_meanScore`: the score of the complexity.
* `scores_on_scale`: all of it for any files and any model.
-/

namespace CodeAudit

open Floating BinaryFormat

/-- A finite number from 0 to 10. -/
def OnScale
    (x : Floating) : Prop :=
  x.Within 0 10

section Scale

variable {x y : Floating}

theorem holds_ten :
    double.Holds 10 := by
  exact_mod_cast holds_natCast (n := 10) (by decide)

theorem onScale_zero :
    OnScale 0 := by
  rw [zero_eq_num]
  exact ⟨0, rfl, le_rfl, by norm_num⟩

/-- Any number is put on the scale by clamping it. -/
theorem onScale_clamp
    (hx : x ≠ .nan) :
    OnScale (Floating.clamp 0 10 x) := by
  rw [zero_eq_num, ten_eq_num]
  exact within_clamp hx (by norm_num)

theorem onScale_minimum
    (hx : x = .nan ∨ x.NotBelow 0) :
    OnScale (x.minimum 10) := by
  rw [ten_eq_num]
  exact within_minimum hx (by norm_num)

theorem OnScale.midpoint
    (hx : OnScale x)
    (hy : OnScale y) :
    OnScale ((x + y) / 2) := by
  have htwenty : double.Holds 20 := by exact_mod_cast holds_natCast (n := 20) (by decide)
  have hsum : (x + y).Within 0 20 :=
    Within.add hx hy holds_zero htwenty (by norm_num) (by norm_num)
  rw [two_eq_num]
  exact hsum.div_num (by norm_num) holds_zero holds_ten (by norm_num) (by norm_num)

theorem OnScale.roundTenth
    (hx : OnScale x) :
    OnScale x.roundTenth := by
  have hhundred : double.Holds 100 := by exact_mod_cast holds_natCast (n := 100) (by decide)
  exact Within.roundTenth (n := 0) (k := 100) hx holds_zero holds_ten (by norm_num) (by norm_num)
    (by exact_mod_cast holds_zero) (by exact_mod_cast hhundred)

end Scale

namespace Security

section Heuristic

theorem notBelow_foldl_maximum
    {x : Floating}
    (hx : x.NotBelow 0)
    (scores : List Floating) :
    (scores.foldl Floating.maximum x).NotBelow 0 := by
  induction scores generalizing x with
  | nil =>
    exact hx
  | cons score rest ih =>
    exact ih (hx.maximum score)

theorem onScale_heuristicScore
    (findings : List Vulnerability) :
    OnScale (heuristicScore findings) := by
  unfold heuristicScore
  split
  · exact onScale_zero
  · have hhighest := notBelow_foldl_maximum onScale_zero.notBelow (findings.map findingScore)
    have hmore : (Floating.num (1 / 2) * .ofNat (findings.length - 1)).NotBelow 0 := by
      rw [Floating.mul_comm]
      simpa using (notBelow_ofNat (findings.length - 1)).mul_num (c := 1 / 2) (by norm_num)
        (by simpa using holds_zero)
    apply onScale_minimum
    right
    simpa using hhighest.add hmore (by simpa using holds_zero)

end Heuristic

/-- The score in a review is a number. -/
theorem Review.ne_nan_of_ofAnswer?
    {answer : String}
    {review : Review}
    {score : Floating}
    (hreview : Review.ofAnswer? answer = some review)
    (hscore : review.riskScore = some score) :
    score ≠ .nan := by
  obtain ⟨node, value, hnode, hvalue⟩ := Answer.exists_of_read? hreview
  refine Json.ne_nan_of_record "risk_score" rfl hnode ?_
  unfold Review.ofValue? at hvalue
  simp only [Option.bind_eq_bind, Option.bind_eq_some_iff] at hvalue
  obtain ⟨findings, -, risk, hrisk, summary, -, hreturned⟩ := hvalue
  obtain rfl := Option.some.inj hreturned
  rw [hrisk, ← hscore]

/-- The scores of a file are on the scale. -/
structure Scored
    (report : FileSecurityReport) : Prop where
  heuristic : OnScale report.heuristicScore
  model : ∀ score, report.modelScore = some score → OnScale score
  risk : OnScale report.riskScore

theorem scored_fileReport
    (file : FileRecord)
    (content : String)
    {review : Option Review}
    (hnumber : ∀ score, review.bind Review.riskScore = some score → score ≠ .nan) :
    Scored (fileReport file content review) where
  heuristic := onScale_heuristicScore _
  model := by
    intro score hscore
    obtain ⟨given, hgiven, rfl⟩ := Option.map_eq_some_iff.mp hscore
    exact onScale_clamp (hnumber given hgiven)
  risk := by
    have hheuristic := onScale_heuristicScore (heuristicFindings file.relativePath content)
    simp only [fileReport]
    cases hgiven : review.bind Review.riskScore with
    | none =>
      exact hheuristic
    | some given =>
      exact hheuristic.midpoint (onScale_clamp (hnumber given hgiven))

section Scan

variable {scanner : Scanner} {read : ReadFile}

theorem ne_nan_of_review
    {earlier : List Prompt}
    {file : FileRecord}
    {content : String}
    {score : Floating}
    (hscore :
      (review scanner earlier file content).1.bind Review.riskScore = some score) :
    score ≠ .nan := by
  obtain ⟨received, hreceived, hrisk⟩ := Option.bind_eq_some_iff.mp hscore
  obtain ⟨-, client, answer, -, -, hanswer⟩ := review_eq_some_iff.mp hreceived
  exact Review.ne_nan_of_ofAnswer? hanswer hrisk

theorem scored_of_mem_scanFrom
    {total position : Nat}
    {earlier : List Prompt}
    {files : List FileRecord} :
    ∀ report ∈ (scanFrom scanner read total position earlier files).reports, Scored report := by
  induction files generalizing position earlier with
  | nil =>
    simp [scanFrom]
  | cons file rest ih =>
    cases hread : read file with
    | none =>
      rw [scanFrom_cons_unreadable _ _ _ _ _ hread]
      exact ih
    | some content =>
      rw [scanFrom_cons_readable _ _ _ _ _ hread, List.forall_mem_cons]
      exact ⟨scored_fileReport file content fun _ => ne_nan_of_review, ih⟩

end Scan
end Security

namespace SecuritySummary

/-- Sums of scores stay below the end of the scale times their number, as far as integers reach. -/
theorem within_foldl_add
    {n : Nat}
    {sum : Floating}
    {scores : List Floating}
    (hsum : sum.Within 0 (10 * n : Nat))
    (hscores : ∀ score ∈ scores, OnScale score)
    (hfew : 10 * (n + scores.length) ≤ 2 ^ 53) :
    (scores.foldl (· + ·) sum).Within 0 (10 * (n + scores.length) : Nat) := by
  -- After `n` scores the bound is `10 * n`, a number of the format, which rounding does not cross.
  induction scores generalizing n sum with
  | nil =>
    exact hsum
  | cons score rest ih =>
    rw [List.forall_mem_cons] at hscores
    rw [List.length_cons, Nat.add_comm rest.length 1, ← Nat.add_assoc] at hfew ⊢
    have hstep : (sum + score).Within 0 (10 * (n + 1) : Nat) := by
      apply Within.add hsum hscores.1 holds_zero (holds_natCast (by omega)) (by norm_num)
      push_cast
      linarith
    exact ih hstep hscores.2 hfew

theorem onScale_mean
    {scores : List Floating}
    (hscores : ∀ score ∈ scores, OnScale score)
    (hsome : scores ≠ [])
    (hfew : 10 * scores.length ≤ 2 ^ 53) :
    OnScale (mean .negativeZero .ofNat scores) := by
  have hpos : (0 : Rat) < scores.length := by
    exact_mod_cast List.length_pos_of_ne_nil hsome
  have hsum : (scores.foldl (· + ·) Floating.negativeZero).Within 0 (10 * scores.length : Nat) := by
    have hstart : Floating.negativeZero.Within 0 (10 * 0 : Nat) := ⟨0, rfl, le_rfl, by norm_num⟩
    simpa using within_foldl_add hstart hscores (by simpa using hfew)
  rw [mean, ofNat_eq_num (by omega)]
  apply hsum.div_num hpos holds_zero holds_ten (by simp)
  rw [div_le_iff₀ hpos]
  exact_mod_cast le_rfl

theorem onScale_meanRisk
    {files : List FileSecurityReport}
    (hfiles : ∀ report ∈ files, OnScale report.riskScore)
    (hfew : 10 * files.length ≤ 2 ^ 53) :
    OnScale (meanRisk files) := by
  cases files with
  | nil =>
    exact onScale_zero
  | cons first rest =>
    apply onScale_mean
    · intro score hscore
      obtain ⟨report, hmem, rfl⟩ := List.mem_map.mp hscore
      exact hfiles report hmem
    · simp
    · rwa [List.length_map]

/-- The mean of exact scores, for any number of them. -/
theorem mean_bounded
    {scores : List Rat}
    (hscores : ∀ score ∈ scores, 0 ≤ score ∧ score ≤ 10) :
    0 ≤ mean 0 (fun n => (n : Rat)) scores ∧ mean 0 (fun n => (n : Rat)) scores ≤ 10 := by
  have hsum : scores.foldl (· + ·) 0 = scores.sum := by
    rw [List.sum_eq_foldl]
  rw [mean, hsum]
  have hlow : 0 ≤ scores.sum := List.sum_nonneg fun score hmem => (hscores score hmem).1
  have hhigh : scores.sum ≤ scores.length • (10 : Rat) :=
    List.sum_le_card_nsmul _ _ fun score hmem => (hscores score hmem).2
  refine ⟨div_nonneg hlow (Nat.cast_nonneg _), ?_⟩
  apply div_le_of_le_mul₀ (Nat.cast_nonneg _) (by norm_num)
  rwa [nsmul_eq_mul, mul_comm] at hhigh

end SecuritySummary

namespace Cloud

theorem onScale_heuristicScore
    (issues : List CloudIssue) :
    OnScale (heuristicScore issues) := by
  have hcost := cost_nonneg issues
  rw [heuristicScore_eq, nearestTenth_exactScore, exactScore_eq_readiness]
  apply Rounds.within (Or.inl rfl) holds_zero holds_ten (le_max_left _ _)
  exact max_le (by norm_num) (by linarith)

/-- The scores of a cloud report are on the scale. -/
structure Scored
    (report : CloudReport) : Prop where
  heuristic : OnScale report.heuristicScore
  model : ∀ score, report.modelScore = some score → OnScale score
  readiness : OnScale report.readinessScore

theorem scored_report
    (metadata : Metadata)
    (provider : Provider)
    (issues : List CloudIssue)
    (packaging : Option PackagingMethod)
    (answer : Option Assessment) :
    Scored (report metadata provider issues packaging answer) := by
  have hnumber : ∀ given,
      (answer.getD .default).readinessScore.filter Floating.isFinite = some given →
        given ≠ .nan := by
    rintro given hgiven rfl
    cases (Option.filter_eq_some_iff.mp hgiven).2
  refine ⟨onScale_heuristicScore issues, ?_, ?_⟩
  · intro score hscore
    obtain ⟨given, hgiven, rfl⟩ := Option.map_eq_some_iff.mp hscore
    exact onScale_clamp (hnumber given hgiven)
  · simp only [report]
    cases hgiven : (answer.getD .default).readinessScore.filter Floating.isFinite with
    | none =>
      exact onScale_heuristicScore issues
    | some given =>
      exact ((onScale_heuristicScore issues).midpoint
        (onScale_clamp (hnumber given hgiven))).roundTenth

end Cloud

namespace Complexity

theorem onScale_meanScore
    (total : Nat)
    {files : Nat}
    (hfiles : files ≠ 0) :
    OnScale (meanScore total files) := by
  have hcount : (ofNat files).NotBelow 1 := by
    have hpos : (1 : Rat) ≤ files := by exact_mod_cast Nat.one_le_iff_ne_zero.mpr hfiles
    exact Rounds.notBelow (Or.inl rfl) holds_one hpos
  apply onScale_minimum
  rcases (notBelow_ofNat total).div hcount one_pos with hnan | hmean
  · left
    rw [hnan]
    rfl
  · right
    rw [two_eq_num]
    simpa using hmean.div_num (c := 2) (by norm_num) (by simpa using holds_zero)

theorem onScale_of
    (structures : List FileStructure) :
    OnScale (Complexity.of structures).score := by
  unfold Complexity.of
  cases structures with
  | nil =>
    exact onScale_zero
  | cons first rest =>
    exact onScale_meanScore _ (Nat.succ_ne_zero rest.length)

end Complexity

/--
Whatever the files are and whatever the model answers, no score leaves the scale from 0 to 10: the
scores in the reports of the files, the mean risk over all of them, the scores of the cloud report
and the score of the complexity.  The mean risk is on the scale as an exact mean for any number of
files, and as it is computed, where every sum is rounded, as long as ten times the number of files
is an integer of the format.
-/
theorem scores_on_scale
    (client : Option Client)
    (limit : Nat)
    (read : ReadFile)
    (earlier : List Prompt)
    (files : List FileRecord)
    (metadata : Metadata)
    (provider : Provider)
    (target : String)
    (package : Option Package) :
    let reports := (Security.scan ⟨client, limit⟩ read earlier files).reports
    let exactRisks : List Rat := reports.map fun report => report.riskScore.value?.getD 0
    let exactMean := SecuritySummary.mean 0 (fun n => (n : Rat)) exactRisks
    let assessed := (Cloud.assess client read earlier metadata files provider package).result
    let planned := (Migration.analyze client read earlier metadata files target package).result
    (∀ report ∈ reports, Security.Scored report) ∧
      (0 ≤ exactMean ∧ exactMean ≤ 10) ∧
      (10 * files.length ≤ 2 ^ 53 →
        ∀ skipped dependencyScan,
          OnScale (SecuritySummary.of reports skipped dependencyScan).overallRiskScore) ∧
      Cloud.Scored assessed ∧
      OnScale planned.complexity.score := by
  intro reports exactRisks exactMean assessed planned
  have hreports : ∀ report ∈ reports, Security.Scored report :=
    Security.scored_of_mem_scanFrom
  refine ⟨hreports, SecuritySummary.mean_bounded ?_, ?_, Cloud.scored_report _ _ _ _ _,
    Complexity.onScale_of _⟩
  · intro score hscore
    obtain ⟨report, hmem, rfl⟩ := List.mem_map.mp hscore
    obtain ⟨q, hvalue, hlow, hhigh⟩ := (hreports report hmem).risk
    rw [hvalue]
    exact ⟨hlow, hhigh⟩
  · intro hfew skipped dependencyScan
    have hlength : reports.length ≤ files.length :=
      (Project.length_reports_add_skipped ⟨client, limit⟩ read earlier files) ▸
        Nat.le_add_right _ _
    exact SecuritySummary.onScale_meanRisk (fun report hmem => (hreports report hmem).risk)
      (by omega)

/-- A model whose scores are far off the scale in both directions. -/
def wildModel : Client :=
  .scripted "scripted" [.ok "\x7b\"risk_score\": 1e300\x7d", .ok "\x7b\"risk_score\": -7\x7d"]

/-- Scores far off the scale count as the ends of the scale, and the mean risk is on it. -/
theorem wild_scores_on_scale :
    let read : ReadFile := fun _ => some "result = eval(text)"
    let files := [Security.sampleFile "a.py" "python", Security.sampleFile "b.py" "python"]
    let reports := (Security.scan ⟨some wildModel, 100⟩ read [] files).reports
    10 * files.length ≤ 2 ^ 53 ∧
      reports.map FileSecurityReport.modelScore = [some (.num 10), some (.num 0)] ∧
      (SecuritySummary.of reports 0 none).overallRiskScore = .num (27 / 4) ∧
      OnScale (SecuritySummary.of reports 0 none).overallRiskScore := by
  intro read files reports
  have hfew : 10 * files.length ≤ 2 ^ 53 := by
    decide
  obtain ⟨-, -, hoverall, -, -⟩ :=
    scores_on_scale (some wildModel) 100 read [] files default default "Quarkus" none
  exact ⟨hfew, by decide +kernel, by decide +kernel, hoverall hfew 0 none⟩

end CodeAudit
