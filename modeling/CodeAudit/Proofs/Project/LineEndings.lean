import CodeAudit.Proofs.LineRules
import CodeAudit.Proofs.Migration.Detection
import CodeAudit.Structure.Count

/-!
# Line endings make no difference

What is found in a file by the security audit, by the cloud audit, by counting its structure and by
looking for legacy frameworks depends on its lines only.  So it stays the same if its line feeds become
carriage returns with line feeds, and if a line feed is put behind its last line.

**Results.**
* `Detection.all_eq_of_lines`: detections of frameworks in texts with the same lines.
* `line_endings_ignored`: all four analyses of a text and of the same text with other line endings.
-/

namespace CodeAudit

/-- The name of a file stays the same, and its text may have other line endings. -/
def SourceReended (source source' : String × String) : Prop :=
  source'.1 = source.1 ∧ (source'.2 = source.2 ∨ Text.Reended source.2 source'.2)

namespace Detection

theorem occurrencesIn_eq_of_lines
    {content content' : String}
    (hlines : Text.lines content' = Text.lines content)
    (framework : Framework)
    (path : String) :
    occurrencesIn framework path content' = occurrencesIn framework path content := by
  rw [occurrencesIn, occurrencesIn, hlines]

theorem metIn_eq_of_lines
    {sources sources' : List (String × String)}
    (hlines : List.Forall₂
      (fun source source' =>
        source'.1 = source.1 ∧ Text.lines source'.2 = Text.lines source.2)
      sources sources')
    (framework : Framework) :
    metIn framework sources' = metIn framework sources := by
  have hmap : (sources'.map fun source =>
        (source.1, occurrencesIn framework source.1 source.2)) =
      sources.map fun source => (source.1, occurrencesIn framework source.1 source.2) := by
    induction hlines with
    | nil =>
        rfl
    | cons hfirst _ ih =>
        rw [List.map_cons, List.map_cons, ih, hfirst.1,
          occurrencesIn_eq_of_lines hfirst.2 framework]
  rw [metIn, hmap]
  rfl

/-- The frameworks in a project depend on the names and the lines of its files only. -/
theorem all_eq_of_lines
    {sources sources' : List (String × String)}
    (hlines : List.Forall₂
      (fun source source' =>
        source'.1 = source.1 ∧ Text.lines source'.2 = Text.lines source.2)
      sources sources') :
    all sources' = all sources := by
  have hof : ∀ framework, of? sources' framework = of? sources framework := by
    intro framework
    rw [of?_eq, of?_eq, metIn_eq_of_lines hlines]
  rw [all_eq, all_eq, funext hof]

end Detection

/--
The analyses of a text without carriage returns do not depend on its line endings.

If a carriage return is put in front of every line feed, or if a line feed is put behind the last line,
which has none, then the heuristic findings, the issues for the cloud, and the counts of the structure
in every language stay the same; and so do the frameworks detected in any files some of which are
changed in this way.
-/
theorem line_endings_ignored
    (content content' : String)
    (hreended : Text.Reended content content')
    (sources sources' : List (String × String))
    (hsources : List.Forall₂ SourceReended sources sources') :
    (∀ path, Security.heuristicFindings path content' = Security.heuristicFindings path content) ∧
      (∀ path, Cloud.fileIssues path content' = Cloud.fileIssues path content) ∧
      (∀ path language, FileStructure.ofContent path language content' =
        FileStructure.ofContent path language content) ∧
      Detection.all sources' = Detection.all sources := by
  have hlines := hreended.lines_eq
  refine ⟨?_, ?_, ?_, ?_⟩
  · intro path
    rw [Security.heuristicFindings, Security.heuristicFindings, hlines]
  · intro path
    rw [Cloud.fileIssues, Cloud.fileIssues, hlines]
  · intro path language
    rw [FileStructure.ofContent, FileStructure.ofContent, hlines]
  · apply Detection.all_eq_of_lines
    refine hsources.imp ?_
    rintro source source' ⟨hname, hsame | hother⟩
    · exact ⟨hname, by rw [hsame]⟩
    · exact ⟨hname, hother.lines_eq⟩

/-- A text of four lines with the endings of Windows, and a file whose only line is closed. -/
theorem windows_text_analysed_alike :
    let content := "import os\neval(x)\n\nif x:"
    let content' := "import os\r\neval(x)\r\n\r\nif x:"
    let sources := [("a.py", content), ("web.xml", "import javax.ejb.X;")]
    let sources' := [("a.py", content'), ("web.xml", "import javax.ejb.X;\n")]
    Text.Reended content content' ∧ List.Forall₂ SourceReended sources sources' ∧
      (Security.heuristicFindings "a.py" content').map Vulnerability.line = [some 2] ∧
      Cloud.fileIssues "a.py" content' = Cloud.fileIssues "a.py" content ∧
      FileStructure.ofContent "a.py" "python" content' = ⟨"a.py", "python", 4, 0, 0, 1, 1⟩ ∧
      Detection.all sources' = Detection.all sources := by
  intro content content' sources sources'
  have hreended : Text.Reended content content' := by
    have hreturns : Text.withReturns content = content' := by decide +kernel
    exact hreturns ▸ Text.Reended.returns (by decide)
  have hclosed : Text.Reended "import javax.ejb.X;" "import javax.ejb.X;\n" :=
    Text.Reended.closed (by decide) (by decide) (by decide)
  have hsources : List.Forall₂ SourceReended sources sources' :=
    .cons ⟨rfl, .inr hreended⟩ (.cons ⟨rfl, .inr hclosed⟩ .nil)
  obtain ⟨hfindings, hissues, hcounts, hdetections⟩ :=
    line_endings_ignored content content' hreended sources sources' hsources
  refine ⟨hreended, hsources, ?_, hissues "a.py", ?_, hdetections⟩
  · rw [hfindings]
    decide +kernel
  · rw [hcounts]
    decide +kernel

end CodeAudit
