import CodeAudit.Proofs.Security.Merging

/-!
# The lines that findings name

A heuristic finding names the line that a rule matched, so its number is one of the numbers of the
lines of the file.  A finding of the model keeps the number of the answer, whatever it is: it may be 0,
and it may be greater than the number of lines.  The numbers in a report are those of real lines if
and only if those of the review are.

**Results.**
* `mem_heuristicFindings_iff`: each heuristic finding, with its line and its rule.
* `isLineOf_of_heuristic`: the line of a heuristic finding is there.
* `lines_of_merges`: the lines of a report.
* `reported_lines_real_iff`: when all findings of a report of a scan name real lines.
* `answered_lines_missing`: an answer that names line 0 and a line after the last one.
-/

namespace CodeAudit
namespace Security

/-- This number, if there is one, is the number of a line of a text. -/
def IsLineOf
    (content : String)
    (line : Option Nat) : Prop :=
  ∀ number, line = some number → 1 ≤ number ∧ number ≤ (Text.lines content).length

section Heuristic

variable {path : String} {v : Vulnerability}

/-- A heuristic finding is that of a rule, on a line that the rule matches. -/
theorem mem_heuristicFindings_iff
    {content : String} :
    v ∈ heuristicFindings path content ↔
      ∃ index line, (Text.lines content)[index]? = some line ∧
        commentLine.foundIn line = false ∧
        ∃ rule ∈ rules, rule.pattern.foundIn line = true ∧ v = rule.finding path (index + 1) := by
  simp only [heuristicFindings, mem_findingsFrom_iff, Nat.add_comm 1]

/-- A heuristic finding names a line, and the file has this line. -/
theorem isLineOf_of_heuristic
    {content : String}
    (hv : v ∈ heuristicFindings path content) :
    v.line.isSome = true ∧ IsLineOf content v.line := by
  obtain ⟨index, line, hline, -, rule, -, -, rfl⟩ := mem_heuristicFindings_iff.mp hv
  obtain ⟨hindex, -⟩ := List.getElem?_eq_some_iff.mp hline
  refine ⟨rfl, ?_⟩
  intro number hnumber
  obtain rfl := Option.some.inj hnumber
  omega

end Heuristic

section Report

variable {source : FileRecord × String} {review : Option Review} {report : FileSecurityReport}

theorem lines_of_becomes
    {path : String}
    {findings : List ReviewFinding}
    {found : List Vulnerability}
    (hbecome : List.Forall₂ (ReviewFinding.Becomes path) findings found) :
    found.map Vulnerability.line = findings.map ReviewFinding.line := by
  induction hbecome with
  | nil =>
      rfl
  | cons hfirst _ ih =>
      rw [List.map_cons, List.map_cons, hfirst.details.1, ih]

/-- The lines of a report are those of the heuristic findings, and then those of the review. -/
theorem lines_of_merges
    (hmerges : Merges source review report) :
    report.vulnerabilities.map Vulnerability.line =
      (heuristicFindings source.1.relativePath source.2).map Vulnerability.line ++
        (reviewFindings review).map ReviewFinding.line := by
  obtain ⟨found, hfindings, hbecome⟩ := hmerges.findings
  rw [hfindings, List.map_append, lines_of_becomes hbecome]

/-- All lines of a report are there if those of the review are. -/
theorem isLineOf_of_merges_iff
    (hmerges : Merges source review report) :
    (∀ v ∈ report.vulnerabilities, IsLineOf source.2 v.line) ↔
      ∀ finding ∈ reviewFindings review, IsLineOf source.2 finding.line := by
  have hlines := lines_of_merges hmerges
  have hmem : ∀ line, line ∈ report.vulnerabilities.map Vulnerability.line ↔
      line ∈ (heuristicFindings source.1.relativePath source.2).map Vulnerability.line ∨
        line ∈ (reviewFindings review).map ReviewFinding.line := by
    intro line
    rw [hlines, List.mem_append]
  constructor
  · intro hall finding hfinding
    have hreported := (hmem finding.line).mpr (.inr (List.mem_map_of_mem hfinding))
    obtain ⟨v, hv, hline⟩ := List.mem_map.mp hreported
    exact hline ▸ hall v hv
  · intro hall v hv
    rcases (hmem v.line).mp (List.mem_map_of_mem hv) with hheuristic | hreviewed
    · obtain ⟨found, hfound, hline⟩ := List.mem_map.mp hheuristic
      exact hline ▸ (isLineOf_of_heuristic hfound).2
    · obtain ⟨finding, hfinding, hline⟩ := List.mem_map.mp hreviewed
      exact hline ▸ hall finding hfinding

end Report

/--
The findings in the report of a readable file name real lines of it if and only if those of the
review do.

A heuristic finding names the line that its rule matched.  A finding of the model names the line that
it has in the answer, checked against nothing; if no review is received for the file, then every line
in its report is there.
-/
theorem reported_lines_real_iff
    (scanner : Scanner)
    (read : ReadFile)
    (earlier : List Prompt)
    (before : List FileRecord)
    (file : FileRecord)
    (after : List FileRecord)
    (content : String)
    (hread : read file = some content) :
    let place := (readableFiles read before).length
    let asked := (scan scanner read earlier before).prompts
    ∃ report review,
      (scan scanner read earlier (before ++ file :: after)).reports[place]? = some report ∧
      (∀ received,
        review = some received ↔ scanner.Receives asked (file, content) received) ∧
      (∀ v ∈ heuristicPart report,
        ∃ index line, (Text.lines content)[index]? = some line ∧
          ∃ rule ∈ rules, rule.pattern.foundIn line = true ∧
            v = rule.finding file.relativePath (index + 1)) ∧
      report.vulnerabilities.map Vulnerability.line =
        (heuristicPart report).map Vulnerability.line ++
          (reviewFindings review).map ReviewFinding.line ∧
      ((∀ v ∈ report.vulnerabilities, IsLineOf content v.line) ↔
        ∀ finding ∈ reviewFindings review, IsLineOf content finding.line) := by
  intro place asked
  have hreport := scan_reports_at scanner read earlier before hread after
  have hmerges := fileReport_merges file content (review scanner asked file content).1
  have hpart := heuristicPart_of_merges hmerges
  refine ⟨_, _, hreport, fun received => review_eq_some_iff, ?_, ?_,
    isLineOf_of_merges_iff hmerges⟩
  · intro v hv
    rw [hpart] at hv
    obtain ⟨index, line, hline, -, hrule⟩ := mem_heuristicFindings_iff.mp hv
    exact ⟨index, line, hline, hrule⟩
  · rw [hpart]
    exact lines_of_merges hmerges

/-- An answer with one finding on each of two lines. -/
def answerAbout
    (first second : String) : String :=
  "\x7b\"vulnerabilities\": [\x7b\"line\": " ++ first ++ "\x7d, \x7b\"line_number\": " ++ second
    ++ "\x7d]\x7d"

/-- The review in such an answer. -/
def reviewAbout
    (first second : Nat) : Review where
  findings := [⟨"", "", some first, "", none, none⟩, ⟨"", "", some second, "", none, none⟩]
  riskScore := none
  summary := none

/-- The model names both lines of a file, one of which the heuristics have found too. -/
theorem answered_lines_real :
    let content := "result = eval(text)\nprint(result)\n"
    let read : ReadFile := fun _ => some content
    let file := sampleFile "a.py" "python"
    let scanner := scriptedScanner "scripted" [.ok (answerAbout "1" "2")] 100
    read file = some content ∧
      ∃ report, (scan scanner read [] [file]).reports[0]? = some report ∧
        report.vulnerabilities.map Vulnerability.line = [some 1, some 1, some 2] ∧
        ∀ v ∈ report.vulnerabilities, IsLineOf content v.line := by
  intro content read file scanner
  have hread : read file = some content := rfl
  obtain ⟨report, review, hreport, hreview, -, hlines, hreal⟩ :=
    reported_lines_real_iff scanner read [] [] file [] content hread
  have hreceived : scanner.Receives (scan scanner read [] []).prompts (file, content)
      (reviewAbout 1 2) :=
    ⟨by decide, _, answerAbout "1" "2", rfl, rfl, by decide +kernel⟩
  rw [(hreview (reviewAbout 1 2)).mpr hreceived] at hlines hreal
  have hcount : (Text.lines content).length = 2 := by decide +kernel
  refine ⟨hread, report, hreport, ?_, ?_⟩
  · have hall : report = fileReport file content (some (reviewAbout 1 2)) := by
      have hscan := @scan_reports_at scanner read [] [] file content hread []
      rw [review_eq_some_iff.mpr hreceived] at hscan
      exact Option.some.inj (hreport.symm.trans hscan)
    rw [hall]
    decide +kernel
  · rw [hreal]
    intro finding hfinding number hnumber
    rw [hcount]
    simp only [reviewFindings, reviewAbout, Option.map_some, Option.getD_some, List.mem_cons,
      List.not_mem_nil, or_false] at hfinding
    rcases hfinding with rfl | rfl
    · obtain rfl := Option.some.inj hnumber
      decide
    · obtain rfl := Option.some.inj hnumber
      decide

/-- The model names line 0 and line 7 of a file with one line, and both stand in its report. -/
theorem answered_lines_missing :
    let content := "x = 1"
    let read : ReadFile := fun _ => some content
    let file := sampleFile "a.py" "python"
    let scanner := scriptedScanner "scripted" [.ok (answerAbout "0" "7")] 100
    (Text.lines content).length = 1 ∧
      ∃ report, (scan scanner read [] [file]).reports[0]? = some report ∧
        report.vulnerabilities.map Vulnerability.line = [some 0, some 7] ∧
        ∀ v ∈ report.vulnerabilities, ¬ IsLineOf content v.line := by
  intro content read file scanner
  have hcount : (Text.lines content).length = 1 := by decide +kernel
  have hreceived : scanner.Receives (scan scanner read [] []).prompts (file, content)
      (reviewAbout 0 7) :=
    ⟨by decide, _, answerAbout "0" "7", rfl, rfl, by decide +kernel⟩
  have hreport := @scan_reports_at scanner read [] [] file content rfl []
  rw [review_eq_some_iff.mpr hreceived] at hreport
  have hlines : (fileReport file content (some (reviewAbout 0 7))).vulnerabilities.map
      Vulnerability.line = [some 0, some 7] := by
    decide +kernel
  refine ⟨hcount, _, hreport, hlines, ?_⟩
  intro v hv hline
  have hnamed := List.mem_map_of_mem (f := Vulnerability.line) hv
  rw [hlines] at hnamed
  simp only [List.mem_cons, List.not_mem_nil, or_false] at hnamed
  rcases hnamed with hzero | hseven
  · exact absurd (hline 0 hzero).1 (by decide)
  · exact absurd (hline 7 hseven).2 (by rw [hcount]; decide)

end Security
end CodeAudit
