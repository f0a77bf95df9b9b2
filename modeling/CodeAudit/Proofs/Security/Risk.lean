import CodeAudit.Proofs.Floating.Maximum
import CodeAudit.Proofs.Project.Scale
import CodeAudit.Proofs.Security.LineNumbers

/-!
# The risk of a file and its findings

The heuristic score is a maximum with a surcharge, cut at ten.  Each of the three steps is monotone, so
more findings never have a lower score, and findings in another order have the same one.  In particular
the score is at least that of each finding alone, which is the score of this finding where it is on the
scale.

A file is graded by its risk as its findings are graded by their scores.  So a file whose risk is the
heuristic score alone is graded at least as severe as each of its heuristic findings.

**Results.**
* `atMost_heuristicScore`: more findings have a greater score.
* `heuristicScore_singleton`: the score of one finding.
* `modelScore_eq_none_iff`: when the risk is left to the heuristics.
* `risk_covers_findings`: the score of findings, and the grade of a file in a scan.
-/

namespace CodeAudit

open Floating

/-- A score that reaches all that another one reaches is not graded less severe. -/
theorem Severity.level_ofScore_le
    {x y : Floating}
    (hmono : ∀ c : Floating, x.atLeast c = true → y.atLeast c = true) :
    (Severity.ofScore x).level ≤ (Severity.ofScore y).level := by
  have hnine := hmono 9
  have hseven := hmono 7
  have hfour := hmono 4
  unfold Severity.ofScore
  -- Every bound that the smaller score reaches is reached by the greater one.
  split_ifs <;> simp_all [Severity.level]

theorem Severity.level_ofScore_mono
    {x y : Floating}
    (hxy : AtMost x y) :
    (Severity.ofScore x).level ≤ (Severity.ofScore y).level :=
  Severity.level_ofScore_le fun _ => hxy.atLeast_mono

namespace Security

/-- The risk of a file is left to the heuristics: no score of the model is there. -/
inductive Scanner.LeavesToHeuristics
    (scanner : Scanner)
    (earlier : List Prompt)
    (source : FileRecord × String) : Prop
  | withoutModel
      (hclient : scanner.client = none)
  | notReviewed
      (hlanguage : isReviewed source.1 = false)
  | failed
      {model : Client}
      {fault : String}
      (hclient : scanner.client = some model)
      (hanswer : model.answer earlier (promptFor scanner.limit source) = .error fault)
  | unusable
      {model : Client}
      {answer : String}
      (hclient : scanner.client = some model)
      (hanswer : model.answer earlier (promptFor scanner.limit source) = .ok answer)
      (hunusable : Review.ofAnswer? answer = none)
  | unscored
      {model : Client}
      {answer : String}
      {review : Review}
      (hclient : scanner.client = some model)
      (hanswer : model.answer earlier (promptFor scanner.limit source) = .ok answer)
      (hreview : Review.ofAnswer? answer = some review)
      (hscore : review.riskScore = none)

/-- A highest score with the surcharge for a number of further findings. -/
def surcharged
    (highest : Floating)
    (further : Nat) : Floating :=
  (highest + .num (1 / 2) * .ofNat further).minimum 10

section Score

variable {findings findings' : List Vulnerability}

theorem heuristicScore_nil :
    heuristicScore [] = .num 0 := by
  rw [heuristicScore, List.isEmpty_nil, if_pos rfl, zero_eq_num]

theorem heuristicScore_of_ne_nil
    (hsome : findings ≠ []) :
    heuristicScore findings =
      surcharged ((findings.map findingScore).foldl Floating.maximum (.num 0))
        (findings.length - 1) := by
  rw [heuristicScore, if_neg (by simpa using hsome), zero_eq_num]
  rfl

theorem atMost_surcharged
    {highest highest' : Floating}
    {further further' : Nat}
    (hhighest : AtMost highest highest')
    (hfurther : further ≤ further') :
    AtMost (surcharged highest further) (surcharged highest' further') := by
  rw [surcharged, surcharged, Floating.mul_comm, Floating.mul_comm (.num (1 / 2)), ten_eq_num]
  apply AtMost.minimum_num _ (by norm_num)
  exact hhighest.add ((atMost_ofNat hfurther).mul_num (by norm_num))

/-- A score is a number that is not negative. -/
theorem atMost_heuristicScore_self
    (findings : List Vulnerability) :
    AtMost (heuristicScore findings) (heuristicScore findings) := by
  by_cases hnone : findings = []
  · rw [hnone, heuristicScore_nil]
    exact AtMost.num le_rfl le_rfl
  · rw [heuristicScore_of_ne_nil hnone]
    exact atMost_surcharged (foldl_maximum_mono (List.Subset.refl _)) le_rfl

/-- More findings, in any order, have at least the score. -/
theorem atMost_heuristicScore
    (hsubperm : findings.Subperm findings') :
    AtMost (heuristicScore findings) (heuristicScore findings') := by
  by_cases hnone : findings = []
  · rw [hnone, heuristicScore_nil]
    exact (atMost_heuristicScore_self findings').zero
  · have hsome : findings' ≠ [] := by
      rintro rfl
      exact hnone (List.subperm_nil.mp hsubperm)
    rw [heuristicScore_of_ne_nil hnone, heuristicScore_of_ne_nil hsome]
    apply atMost_surcharged
    · exact foldl_maximum_mono (List.map_subset _ hsubperm.subset)
    · exact Nat.sub_le_sub_right hsubperm.length_le 1

theorem heuristicScore_perm
    (hperm : findings.Perm findings') :
    heuristicScore findings = heuristicScore findings' :=
  (atMost_heuristicScore hperm.subperm).antisymm (atMost_heuristicScore hperm.symm.subperm)

end Score

section Finding

theorem isNumber_weight
    (severity : Severity) :
    severity.weight.IsNumber := by
  have hhalves : ∃ n : Nat, n ≤ 20 ∧ severity.weight = .num (n / 2) := by
    cases severity with
    | low =>
        exact ⟨4, by norm_num, by norm_num [Severity.weight]⟩
    | medium =>
        exact ⟨10, by norm_num, by norm_num [Severity.weight]⟩
    | high =>
        exact ⟨15, by norm_num, by norm_num [Severity.weight]⟩
    | critical =>
        exact ⟨20, by norm_num, by norm_num [Severity.weight]⟩
  obtain ⟨n, hle, hweight⟩ := hhalves
  rw [hweight]
  exact isNumber_half (by omega)

variable {findings : List Vulnerability} {v : Vulnerability}

/-- The score that a finding counts as is a number, if its own score is one. -/
theorem isNumber_findingScore
    (hscore : ∀ score, v.score = some score → score.IsNumber) :
    (findingScore v).IsNumber := by
  cases hgiven : v.score with
  | none =>
      rw [findingScore, hgiven]
      exact isNumber_weight v.severity
  | some score =>
      rw [findingScore, hgiven]
      exact hscore score hgiven

/-- One finding has no surcharge: its score is put on the scale. -/
theorem heuristicScore_singleton
    (hnumber : (findingScore v).IsNumber) :
    heuristicScore [v] = ((Floating.num 0).maximum (findingScore v)).minimum 10 := by
  have hnothing : Floating.num (1 / 2) * .ofNat 0 = .num 0 := by
    rw [Floating.mul_comm, ofNat_eq_num (Nat.zero_le _), Nat.cast_zero,
      num_mul_num le_rfl (by norm_num), zero_mul, ofRat_zero]
  rw [heuristicScore_of_ne_nil (List.cons_ne_nil v []), surcharged]
  simp only [List.map_cons, List.map_nil, List.foldl_cons, List.foldl_nil, List.length_singleton,
    Nat.sub_self, hnothing, hnumber.maximum_zero_add_zero]

/-- The score of findings is at least that of each of them, as far as the scale goes. -/
theorem heuristicScore_atLeast
    (hv : v ∈ findings)
    (hscore : ∀ score, v.score = some score → score.IsNumber) :
    (heuristicScore findings).atLeast ((findingScore v).minimum 10) = true := by
  have hnumber := isNumber_findingScore hscore
  have hsingle := atMost_heuristicScore (List.singleton_subperm_iff.mpr hv)
  rw [heuristicScore_singleton hnumber, ten_eq_num,
    minimum_maximum_zero hnumber.ne_nan (by norm_num)] at hsingle
  rw [ten_eq_num]
  exact atLeast_of_raised (hnumber.minimum_ne_nan 10) hsingle

/-- A heuristic finding alone has the score of its rule. -/
theorem heuristicScore_finding
    {rule : Rule}
    (hrule : rule ∈ rules)
    (path : String)
    (line : Nat) :
    heuristicScore [rule.finding path line] = rule.score := by
  have hall : ∀ rule ∈ rules, heuristicScore [rule.finding "" 0] = rule.score := by
    decide +kernel
  exact hall rule hrule

/-- A heuristic finding of a file is at most as severe as the heuristic score of the file. -/
theorem level_le_of_mem_heuristicFindings
    {path content : String}
    (hv : v ∈ heuristicFindings path content) :
    v.severity.level ≤ (Severity.ofScore (heuristicScore (heuristicFindings path content))).level := by
  have hsingle := atMost_heuristicScore (List.singleton_subperm_iff.mpr hv)
  obtain ⟨index, line, -, -, rule, hrule, -, rfl⟩ := mem_heuristicFindings_iff.mp hv
  rw [heuristicScore_finding hrule] at hsingle
  exact Severity.level_ofScore_mono hsingle

end Finding

section Scan

/-- The report of a file has no score of the model exactly if the risk is left to the heuristics. -/
theorem modelScore_eq_none_iff
    {scanner : Scanner}
    {earlier : List Prompt}
    {file : FileRecord}
    {content : String} :
    (fileReport file content (review scanner earlier file content).1).modelScore = none ↔
      scanner.LeavesToHeuristics earlier (file, content) := by
  rw [(fileReport_merges file content _).model, Option.map_eq_none_iff]
  constructor
  · intro hscore
    cases hreviewed : isReviewed file with
    | false =>
        exact .notReviewed hreviewed
    | true =>
        cases hclient : scanner.client with
        | none =>
            exact .withoutModel hclient
        | some model =>
            cases hanswer : model.answer earlier (promptFor scanner.limit (file, content)) with
            | error fault =>
                exact .failed hclient hanswer
            | ok answer =>
                cases hreview : Review.ofAnswer? answer with
                | none =>
                    exact .unusable hclient hanswer hreview
                | some received =>
                    have hreceived : scanner.Receives earlier (file, content) received :=
                      ⟨hreviewed, model, answer, hclient, hanswer, hreview⟩
                    rw [review_eq_some_iff.mpr hreceived, Option.bind_some] at hscore
                    exact .unscored hclient hanswer hreview hscore
  · intro hleaves
    rw [Option.bind_eq_none_iff]
    intro received hreceived
    obtain ⟨hreviewed, model, answer, hclient, hanswer, hreview⟩ :=
      review_eq_some_iff.mp hreceived
    cases hleaves <;> simp_all

/-- A scan grades the files by their risks. -/
theorem severity_of_mem_scanFrom
    {scanner : Scanner}
    {read : ReadFile}
    {total position : Nat}
    {earlier : List Prompt}
    {files : List FileRecord} :
    ∀ report ∈ (scanFrom scanner read total position earlier files).reports,
      report.severity = .ofScore report.riskScore := by
  induction files generalizing position earlier with
  | nil =>
      simp [scanFrom]
  | cons file rest ih =>
      cases hread : read file with
      | none =>
          rw [scanFrom_cons_unreadable _ _ _ _ _ hread]
          exact ih
      | some content =>
          rw [scanFrom_cons_readable _ _ _ _ _ hread, List.forall_mem_cons]
          exact ⟨(fileReport_merges file content _).severity, ih⟩

end Scan

/--
The heuristic score of findings does not depend on their order, it never falls when findings are
added, it is on the scale from 0 to 10, and it is at least the score of each finding that is a number,
or 10 where that is less.

So in a scan, the report of a file has no score of the model exactly if the risk is left to the
heuristics, and then the risk is the heuristic score and the file is graded at least as severe as each
heuristic finding in its report.
-/
theorem risk_covers_findings
    (findings : List Vulnerability)
    (scanner : Scanner)
    (read : ReadFile)
    (earlier : List Prompt)
    (before : List FileRecord)
    (file : FileRecord)
    (after : List FileRecord)
    (content : String)
    (hread : read file = some content) :
    let place := (readableFiles read before).length
    let asked := (scan scanner read earlier before).prompts
    (∀ reordered, findings.Perm reordered →
      heuristicScore reordered = heuristicScore findings) ∧
    (∀ more, findings.Subperm more →
      (heuristicScore more).atLeast (heuristicScore findings) = true) ∧
    OnScale (heuristicScore findings) ∧
    (∀ v ∈ findings, (∀ score, v.score = some score → score.IsNumber) →
      (heuristicScore findings).atLeast ((findingScore v).minimum 10) = true) ∧
    ∃ report,
      (scan scanner read earlier (before ++ file :: after)).reports[place]? = some report ∧
      (report.modelScore = none ↔ scanner.LeavesToHeuristics asked (file, content)) ∧
      (scanner.LeavesToHeuristics asked (file, content) →
        report.riskScore = report.heuristicScore ∧
        ∀ v ∈ report.vulnerabilities, v.source = .heuristic →
          v.severity.level ≤ report.severity.level) := by
  intro place asked
  have hreport := scan_reports_at scanner read earlier before hread after
  have hmerges := fileReport_merges file content (review scanner asked file content).1
  have hpart := heuristicPart_of_merges hmerges
  refine ⟨?_, ?_, onScale_heuristicScore findings, ?_, _, hreport, modelScore_eq_none_iff, ?_⟩
  · intro reordered hperm
    exact (heuristicScore_perm hperm).symm
  · intro more hsubperm
    exact (atMost_heuristicScore hsubperm).atLeast
  · intro v hv hscore
    exact heuristicScore_atLeast hv hscore
  · intro hleaves
    have halone := hmerges.alone (modelScore_eq_none_iff.mpr hleaves)
    refine ⟨halone, ?_⟩
    intro v hv hsource
    have hfound : v ∈ heuristicPart (fileReport file content (review scanner asked file content).1) :=
      List.mem_filter.mpr ⟨hv, decide_eq_true hsource⟩
    rw [hpart] at hfound
    rw [hmerges.severity, halone, hmerges.heuristic]
    exact level_le_of_mem_heuristicFindings hfound

/-- A finding of a source file, of a severity and with a score or without one. -/
def sampleFinding
    (severity : Severity)
    (score : Option Floating) : Vulnerability :=
  ⟨"Weakness", severity, some 1, "weak", none, "a.py", .heuristic, none, score⟩

/--
A low finding with a score of 7 and a medium one without a score have the score 15/2 in either order.
An answer that is no review leaves the risk of the one file to the heuristics, which found a call of
`eval` in it.
-/
theorem unusable_answer_covered :
    let read : ReadFile := fun _ => some "result = eval(text)"
    let scanner := scriptedScanner "scripted" [.ok "no review"] 100
    let file := sampleFile "a.py" "python"
    let first := sampleFinding .low (some (.num 7))
    let second := sampleFinding .medium none
    read file = some "result = eval(text)" ∧
      heuristicScore [first, second] = .num (15 / 2) ∧
      heuristicScore [second, first] = .num (15 / 2) ∧
      (heuristicScore [first, second]).atLeast (.num 7) = true ∧
      ∃ report,
        (scan scanner read [] [file]).reports[0]? = some report ∧
        report.modelScore = none ∧
        ∀ v ∈ report.vulnerabilities, v.source = .heuristic →
          v.severity.level ≤ report.severity.level := by
  intro read scanner file first second
  have hread : read file = some "result = eval(text)" := rfl
  obtain ⟨hperm, -, -, hcovers, report, hreport, hnone, hgrade⟩ :=
    risk_covers_findings [first, second] scanner read [] [] file [] "result = eval(text)" hread
  have hanswer : (Client.scripted "scripted" [.ok "no review"]).answer []
      (promptFor 100 (file, "result = eval(text)")) = .ok "no review" := rfl
  have hunusable : Review.ofAnswer? "no review" = none := by
    decide +kernel
  have hleaves : scanner.LeavesToHeuristics [] (file, "result = eval(text)") :=
    .unusable rfl hanswer hunusable
  have hboth : heuristicScore [first, second] = .num (15 / 2) := by
    decide +kernel
  refine ⟨hread, hboth, ?_, ?_, report, hreport, hnone.mpr hleaves, (hgrade hleaves).2⟩
  · rw [hperm [second, first] (List.Perm.swap second first []), hboth]
  · have hgiven : findingScore first = .num 7 := rfl
    have hlower : (findingScore first).minimum 10 = .num 7 := by
      rw [hgiven, ten_eq_num, num_minimum_num, min_eq_left (by norm_num)]
    have hnumber : ∀ score, first.score = some score → score.IsNumber := by
      rintro _ ⟨⟩
      have hseven := isNumber_half (n := 14) (by norm_num)
      norm_num at hseven
      exact hseven
    have hcovered := hcovers first List.mem_cons_self hnumber
    rwa [hlower] at hcovered

end Security
end CodeAudit
