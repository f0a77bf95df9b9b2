import CodeAudit.Proofs.Report.Page
import CodeAudit.Proofs.Report.RunId
import Mathlib.Tactic.MkIffOfInductiveProp

/-!
# The headings of a security report

The page of a security report has the headings that the program writes.  Between them stand texts of
the model and of the dependency scanner, and they are written as they come: such a text starts headings
of its own where it has a number sign right after a line feed, and a summary also where it begins with
one.

**Results.**
* `framed_security`: the headings that the program writes, and when there are no other ones.
* `frame_eq_outline`: what these headings are.
* `headings_same_iff`: two reports that differ in the texts of the model and the scanner.
* `summary_forges_heading`: a summary that is a heading.
-/

namespace CodeAudit

/-! ## Reports without foreign texts -/

/-- A finding of a file without the texts that the model chooses. -/
def Vulnerability.withoutText (v : Vulnerability) : Vulnerability :=
  { v with kind := "", description := "", recommendation := none, cve := none }

/-- The part of a file without the texts that the model chooses. -/
def FileSecurityReport.withoutText (file : FileSecurityReport) : FileSecurityReport :=
  { file with
    vulnerabilities := file.vulnerabilities.map Vulnerability.withoutText
    modelSummary := none }

/-- The outcome of a dependency scan without the texts that the scanner chooses. -/
def DependencyOutcome.withoutText (outcome : DependencyOutcome) : DependencyOutcome :=
  { outcome with
    vulnerabilities := outcome.vulnerabilities.map fun v => { v.withoutText with file := "" }
    errors := [] }

/-- A report without the texts that the model and the scanner choose. -/
def SecurityReport.withoutText (report : SecurityReport) : SecurityReport :=
  { report with
    files := report.files.map FileSecurityReport.withoutText
    dependencyScan := report.dependencyScan.map DependencyOutcome.withoutText }

namespace Markdown

/-! ## Texts that do not break -/

theorem not_breaks_label
    (severity : Severity) :
    ¬ Breaks severity.label := by
  cases severity <;> decide

theorem not_breaks_toString
    (n : Nat) :
    ¬ Breaks (toString n) :=
  not_breaks_of_feed_not_mem (feed_not_mem_toString n)

theorem not_breaks_fixedText
    (score : Floating) :
    ¬ Breaks (score.fixedText 1) :=
  not_breaks_of_feed_not_mem (feed_not_mem_fixedText 1 score)

theorem not_breaks_outOfTen
    (score : Floating) :
    ¬ Breaks (outOfTen score) := by
  unfold outOfTen
  simp +decide only [breaks_append_iff, not_breaks_fixedText, or_false, and_false]

theorem not_breaks_runId
    (id : RunId) :
    ¬ Breaks id.text := by
  have hdigits : ∀ m n, '\n' ∉ ((RunId.hexDigits 32 id.bits.toNat).drop m).take n := by
    intro m n hmem
    obtain ⟨d, hd, hfeed⟩ :=
      RunId.exists_of_mem_hexDigits (List.mem_of_mem_drop (List.mem_of_mem_take hmem))
    have hplain : ∀ d < 16, '\n' ≠ Json.hexDigit d := by decide
    exact hplain d hd hfeed
  have hfirst : '\n' ∉ (RunId.hexDigits 32 id.bits.toNat).take 8 := hdigits 0 8
  have hlast : '\n' ∉ (RunId.hexDigits 32 id.bits.toNat).drop 20 := by
    have htake := hdigits 20 12
    rwa [List.take_of_length_le (by simp [RunId.length_hexDigits])] at htake
  refine not_breaks_of_feed_not_mem ?_
  rw [RunId.text, String.toList_ofList, RunId.grouped]
  simp [hfirst, hdigits, hlast]

/-! ## The program's own sections -/

section Own

theorem framed_feed :
    Framed "\n" [] True :=
  .of_headings (by decide) (by decide)

theorem framed_header
    (title : String)
    (m : Metadata) :
    Framed (header title m) (headings (header title m)) True := by
  refine .of_headings (.inr ?_) rfl
  unfold header
  cases m.model with
  | none =>
      exact .append _ (by decide)
  | some model =>
      exact .append _ (.append _ (by decide))

theorem headings_header
    {m : Metadata}
    (htarget : ¬ Breaks m.target)
    (htime : ¬ Breaks m.generatedAt)
    (hmodel : ∀ model ∈ m.model, ¬ Breaks model) :
    headings (header "Security Scan Report" m) = ["# Security Scan Report"] := by
  have hhead : headings "# Security Scan Report\n\n" = ["# Security Scan Report"] := by decide
  have hopen : "# " ++ "Security Scan Report" ++ "\n\n**Target:** \x60" =
      "# Security Scan Report\n\n" ++ "**Target:** \x60" := by decide
  unfold header
  rw [hopen]
  simp only [String.append_assoc]
  rw [headings_append (by decide), hhead]
  refine congrArg (["# Security Scan Report"] ++ ·) (headings_eq_nil_iff.mpr ⟨?_, ?_⟩)
  · simp +decide only [begins_append_iff, false_or, false_and]
  · cases hasked : m.model with
    | none =>
        simp +decide only [breaks_append_iff, begins_append_iff, htarget, htime,
          not_breaks_runId, or_false, false_and, and_false]
    | some model =>
        simp +decide only [breaks_append_iff, begins_append_iff, htarget, htime,
          not_breaks_runId, hmodel model hasked, or_false, false_and, and_false]

theorem framed_securitySummary
    (s : SecuritySummary) :
    Framed (securitySummary s) ["## Summary"] True := by
  have hhead : headings "## Summary\n\n" = ["## Summary"] := by decide
  refine .of_headings (.inr (.append _ (by decide))) ?_
  unfold securitySummary
  simp only [String.append_assoc]
  rw [headings_append (by decide), hhead]
  refine congrArg (["## Summary"] ++ ·) (headings_eq_nil_iff.mpr ⟨?_, ?_⟩)
  · simp +decide only [begins_append_iff, false_or, false_and]
  · cases s.highestSeverity with
    | none =>
        simp +decide only [breaks_append_iff, begins_append_iff, not_breaks_toString,
          not_breaks_outOfTen, or_false, false_and, and_false]
    | some severity =>
        simp +decide only [breaks_append_iff, begins_append_iff, not_breaks_toString,
          not_breaks_outOfTen, not_breaks_label, or_false, false_and, and_false]

theorem framed_severityRow
    (severity : Severity)
    (count : Nat) :
    Framed ("| " ++ severity.label ++ " | " ++ toString count ++ " |\n") [] True := by
  refine .of_headings (.inr (.append _ (by decide))) ?_
  refine headings_eq_nil_iff.mpr ⟨?_, ?_⟩
  · simp +decide only [String.append_assoc, begins_append_iff, or_false, false_and]
  · simp +decide only [String.append_assoc, breaks_append_iff, begins_append_iff,
      not_breaks_toString, not_breaks_label, or_false, false_and, and_false]

theorem framed_severityTable
    (counts : SeverityCounts) :
    Framed (severityTable counts) [] True := by
  have hhead : Framed "| Severity | Count |\n|----------|-------|\n" [] True :=
    .of_headings (by decide) (by decide)
  have hrows := Framed.join_foreign Severity.worstFirst fun severity _ =>
    framed_severityRow severity (counts.get severity)
  have htable := (hhead.append hrows).append framed_feed
  simp only [implies_true, and_self, List.append_nil] at htable
  exact htable

theorem framed_cleanLine
    (clean : Nat) :
    Framed (if 0 < clean then toString clean ++ " other file(s) had no findings.\n" else "") []
      True := by
  split
  · refine .of_headings (.inr (.append _ (by decide))) ?_
    refine headings_eq_nil_iff.mpr ⟨?_, ?_⟩
    · simp +decide only [begins_append_iff, not_begins_toString, and_false, or_false]
    · simp +decide only [breaks_append_iff, not_breaks_toString, and_false, or_false]
  · exact .of_headings (by decide) (by decide)

end Own

/-! ## Foreign texts -/

/-- A finding of a file whose texts stay in their lines. -/
@[mk_iff]
structure IsInline (v : Vulnerability) : Prop where
  kind : ¬ Breaks v.kind
  cve : ∀ cve ∈ v.cve, ¬ Breaks cve
  description : ¬ Breaks v.description
  recommendation : ∀ recommendation ∈ v.recommendation, ¬ Breaks recommendation

/-- The part of a file whose foreign texts start no heading. -/
@[mk_iff]
structure IsPlainFile (file : FileSecurityReport) : Prop where
  summary : ∀ summary ∈ file.modelSummary, ¬ Begins summary ∧ ¬ Breaks summary
  findings : ∀ v ∈ file.vulnerabilities, IsInline v

/-- A dependency scan whose foreign texts stay in their lines. -/
@[mk_iff]
structure IsPlainScan (outcome : DependencyOutcome) : Prop where
  errors : ∀ error ∈ outcome.errors, ¬ Breaks error
  rows : ∀ v ∈ outcome.vulnerabilities, ¬ Breaks v.file ∧ ∀ cve ∈ v.cve, ¬ Breaks cve

/-- A report whose foreign texts start no heading; a file without findings is not shown. -/
@[mk_iff]
structure IsPlain (report : SecurityReport) : Prop where
  scan : ∀ outcome ∈ report.dependencyScan, IsPlainScan outcome
  files : ∀ file ∈ report.files, file.vulnerabilities ≠ [] → IsPlainFile file

section Foreign

theorem framed_vulnerabilityItem
    (v : Vulnerability) :
    Framed (vulnerabilityItem v) [] (IsInline v) := by
  have hsource : ¬ Breaks v.source.label := by
    cases v.source <;> decide
  refine .of_foreign (.inr ?_) ?_
  · unfold vulnerabilityItem
    cases v.recommendation with
    | none =>
        rw [String.append_empty]
        exact .append _ (by decide)
    | some recommendation =>
        exact .append _ (.append _ (by decide))
  · rw [isInline_iff, headings_eq_nil_iff]
    unfold vulnerabilityItem
    cases v.line <;> cases v.cve <;> cases v.recommendation <;>
      simp +decide only [String.append_assoc, breaks_append_iff, begins_append_iff,
        not_breaks_toString, not_breaks_label, hsource, or_false, false_or, false_and, and_false,
        not_false_eq_true, true_and, and_true, not_or, Option.mem_def, Option.some.injEq,
        forall_eq']

theorem framed_dependencyRow
    (v : Vulnerability) :
    Framed (dependencyRow v) [] (¬ Breaks v.file ∧ ∀ cve ∈ v.cve, ¬ Breaks cve) := by
  refine .of_foreign (.inr (.append _ (by decide))) ?_
  rw [headings_eq_nil_iff]
  unfold dependencyRow
  cases v.cve <;> cases v.score <;>
    simp +decide only [Option.getD_none, Option.getD_some, String.append_assoc,
      breaks_append_iff, begins_append_iff, not_breaks_label, not_breaks_fixedText, or_false,
      false_or, false_and, and_false, not_false_eq_true, true_and, and_true, not_or,
      Option.mem_def, Option.some.injEq, forall_eq']

theorem framed_error
    (error : String) :
    Framed ("- ⚠️ " ++ error ++ "\n") [] (¬ Breaks error) := by
  refine .of_foreign (.inr (.append _ (by decide))) ?_
  rw [headings_eq_nil_iff]
  simp +decide only [String.append_assoc, breaks_append_iff, begins_append_iff, or_false,
    false_or, false_and, and_false, not_false_eq_true, true_and]

theorem framed_summary
    (summary : String) :
    Framed (summary ++ "\n\n") [] (¬ Begins summary ∧ ¬ Breaks summary) := by
  refine .of_foreign (.inr (.append _ (by decide))) ?_
  rw [headings_eq_nil_iff]
  simp +decide only [breaks_append_iff, begins_append_iff, or_false, and_false]

/-- What the program says of the launcher. -/
def toolLine : Option String → String
  | some tool => "Scanned with " ++ tool ++ ".\n\n"
  | none => "No dependency scanner could be run.\n\n"

theorem framed_toolLine
    (tool : Option String) :
    Framed (toolLine tool) (headings (toolLine tool)) True := by
  refine .of_headings (.inr ?_) rfl
  cases tool with
  | none =>
      decide
  | some name =>
      exact .append _ (by decide)

theorem headings_toolLine
    {tool : Option String}
    (htool : ∀ name ∈ tool, ¬ Breaks name) :
    headings (toolLine tool) = [] := by
  cases tool with
  | none =>
      decide
  | some name =>
      refine headings_eq_nil_iff.mpr ⟨?_, ?_⟩
      · simp +decide only [toolLine, String.append_assoc, begins_append_iff, false_and, or_false]
      · simp +decide only [toolLine, String.append_assoc, breaks_append_iff, htool name rfl,
          begins_append_iff, false_and, and_false, or_false]

theorem framed_dependencyTable
    (vulnerabilities : List Vulnerability) :
    Framed
      (if vulnerabilities.isEmpty then "No vulnerable dependencies reported.\n\n"
        else
          "| Severity | Dependency | CVE | Score |\n|----------|------------|-----|-------|\n"
            ++ String.join (vulnerabilities.map dependencyRow) ++ "\n")
      [] (∀ v ∈ vulnerabilities, ¬ Breaks v.file ∧ ∀ cve ∈ v.cve, ¬ Breaks cve) := by
  split
  · next hempty =>
    obtain rfl := List.isEmpty_iff.mp hempty
    refine .of_foreign (by decide) ?_
    simp +decide
  · have hhead : Framed
        "| Severity | Dependency | CVE | Score |\n|----------|------------|-----|-------|\n"
        [] True := .of_headings (by decide) (by decide)
    have hrows := Framed.join_foreign vulnerabilities fun v _ => framed_dependencyRow v
    exact ((hhead.append hrows).append framed_feed).congr rfl rfl (by rw [true_and, and_true])

/-- The section about the dependencies. -/
theorem framed_dependencySection
    (outcome : DependencyOutcome) :
    Framed (dependencySection outcome) ("## Dependency Scan" :: headings (toolLine outcome.tool))
      (IsPlainScan outcome) := by
  have hhead : Framed "## Dependency Scan\n\n" ["## Dependency Scan"] True :=
    .of_headings (by decide) (by decide)
  have herrors := Framed.join_foreign outcome.errors fun error _ => framed_error error
  have hgap : Framed (if outcome.errors.isEmpty then "" else "\n") [] True := by
    split
    · exact .of_headings (by decide) (by decide)
    · exact framed_feed
  have hsection := (((hhead.append (framed_toolLine outcome.tool)).append herrors).append
    hgap).append (framed_dependencyTable outcome.vulnerabilities)
  refine hsection.congr ?_ ?_ ?_
  · unfold dependencySection toolLine
    rfl
  · simp
  · simp [isPlainScan_iff]

/-- The title of the part about a file. -/
def fileTitle (file : FileSecurityReport) : String :=
  "### \x60" ++ file.file ++ "\x60 (" ++ file.severity.label ++ " · " ++ outOfTen file.riskScore
    ++ ")"

theorem headings_fileTitle
    {file : FileSecurityReport}
    (hname : '\n' ∉ file.file.toList) :
    headings (fileTitle file ++ "\n\n") = [fileTitle file] := by
  refine headings_line ?_ ?_ ?_
  · unfold fileTitle
    simp +decide only [String.append_assoc, begins_append_iff, true_or]
  · have hlabel : '\n' ∉ file.severity.label.toList := by
      cases file.severity <;> decide
    have hscore := feed_not_mem_fixedText 1 file.riskScore
    simp [fileTitle, outOfTen, hname, hlabel, hscore]
  · have hclose : ")".toList.getLast? = some ')' := by decide
    rw [fileTitle, String.toList_append, List.getLast?_append, hclose, Option.some_or]
    decide

/-- The part about a file up to its end: the title, the summary and the findings. -/
def fileHead (file : FileSecurityReport) : String :=
  fileTitle file ++ "\n\n"
    ++ (match file.modelSummary with
        | some summary => summary ++ "\n\n"
        | none => "")
    ++ String.join (file.vulnerabilities.map vulnerabilityItem)

theorem fileSection_eq
    (file : FileSecurityReport) :
    fileSection file = fileHead file ++ "\n" := by
  have hclose : ")\n\n" = ")" ++ "\n\n" := by decide
  unfold fileSection fileHead fileTitle
  rw [hclose]
  cases file.modelSummary <;> simp only [String.append_assoc]

theorem framed_fileHead
    (file : FileSecurityReport) :
    Framed (fileHead file) (headings (fileTitle file ++ "\n\n")) (IsPlainFile file) := by
  have htitle : Framed (fileTitle file ++ "\n\n") (headings (fileTitle file ++ "\n\n")) True :=
    .of_headings (.inr (.append _ (by decide))) rfl
  have hsummary : Framed
      (match file.modelSummary with
        | some summary => summary ++ "\n\n"
        | none => "")
      [] (∀ summary ∈ file.modelSummary, ¬ Begins summary ∧ ¬ Breaks summary) := by
    cases file.modelSummary with
    | none =>
        exact .of_foreign (by decide) (by simp +decide)
    | some summary =>
        exact (framed_summary summary).congr rfl rfl (by simp)
  have hitems := Framed.join_foreign file.vulnerabilities fun v _ =>
    framed_vulnerabilityItem v
  exact ((htitle.append hsummary).append hitems).congr rfl (by simp) (by simp [isPlainFile_iff])

/-- The part about a file. -/
theorem framed_fileSection
    (file : FileSecurityReport) :
    Framed (fileSection file) (headings (fileTitle file ++ "\n\n")) (IsPlainFile file) :=
  ((framed_fileHead file).append framed_feed).congr (fileSection_eq file).symm (by simp) (by simp)

end Foreign

/-! ## The report -/

/-- The headings that the program writes. -/
def frame (report : SecurityReport) : List String :=
  headings (header "Security Scan Report" report.metadata)
    ++ ["## Summary", "## Findings by Severity"]
    ++ (report.dependencyScan.map fun outcome =>
      "## Dependency Scan" :: headings (toolLine outcome.tool)).getD []
    ++ "## Files" :: (flaggedFiles report.files).flatMap fun file =>
      headings (fileTitle file ++ "\n\n")

section Report

theorem mem_flaggedFiles_iff
    (files : List FileSecurityReport)
    (file : FileSecurityReport) :
    file ∈ flaggedFiles files ↔ file ∈ files ∧ file.vulnerabilities ≠ [] := by
  rw [flaggedFiles, List.mem_mergeSort, List.mem_filter]
  simp

theorem framed_filesSection
    (files : List FileSecurityReport) :
    Framed (filesSection files)
      ("## Files" :: (flaggedFiles files).flatMap fun file => headings (fileTitle file ++ "\n\n"))
      (∀ file ∈ files, file.vulnerabilities ≠ [] → IsPlainFile file) := by
  have hhead : Framed "## Files\n\n" ["## Files"] True := .of_headings (by decide) (by decide)
  have hplain : (∀ file ∈ flaggedFiles files, IsPlainFile file) ↔
      ∀ file ∈ files, file.vulnerabilities ≠ [] → IsPlainFile file := by
    simp only [mem_flaggedFiles_iff, and_imp]
  rw [← hplain]
  unfold filesSection
  dsimp only
  split
  · next hempty =>
    have hnone : Framed "No source-level findings.\n" [] True :=
      .of_headings (by decide) (by decide)
    rw [List.isEmpty_iff.mp hempty]
    exact (hhead.append hnone).congr rfl rfl (by simp)
  · have hfiles := Framed.join (flaggedFiles files) fun file _ => framed_fileSection file
    have hclean := framed_cleanLine (files.length - (flaggedFiles files).length)
    exact (hhead.append (hfiles.append hclean)).congr rfl (by simp) (by simp)

theorem framed_dependencyScan
    (scan : Option DependencyOutcome) :
    Framed ((scan.map dependencySection).getD "")
      ((scan.map fun outcome =>
        "## Dependency Scan" :: headings (toolLine outcome.tool)).getD [])
      (∀ outcome ∈ scan, IsPlainScan outcome) := by
  cases scan with
  | none =>
      exact .of_foreign (by decide) (by simp +decide)
  | some outcome =>
      exact (framed_dependencySection outcome).congr rfl rfl (by simp)

/-- A report has the headings that the program writes, and no other ones if and only if it is plain. -/
theorem framed_security
    (report : SecurityReport) :
    Framed (security report) (frame report) (IsPlain report) := by
  have hseverities : Framed "## Findings by Severity\n\n" ["## Findings by Severity"] True :=
    .of_headings (by decide) (by decide)
  have hpage := (((((framed_header "Security Scan Report" report.metadata).append
    (framed_securitySummary report.summary)).append hseverities).append
    (framed_severityTable report.summary.severityCounts)).append
    (framed_dependencyScan report.dependencyScan)).append (framed_filesSection report.files)
  refine hpage.congr rfl ?_ ?_
  · simp [frame]
  · simp [isPlain_iff]

/-- Files are listed in the same order whatever the model says of them. -/
theorem flaggedFiles_map_withoutText
    (files : List FileSecurityReport) :
    flaggedFiles (files.map FileSecurityReport.withoutText) =
      (flaggedFiles files).map FileSecurityReport.withoutText := by
  have hflagged : (fun file => !file.vulnerabilities.isEmpty) ∘ FileSecurityReport.withoutText =
      fun file => !file.vulnerabilities.isEmpty := by
    funext file
    rw [Function.comp_apply, FileSecurityReport.withoutText, List.isEmpty_map]
  rw [flaggedFiles, flaggedFiles, List.filter_map, hflagged]
  exact (List.map_mergeSort (f := FileSecurityReport.withoutText) (r := riskierFirst)
    (s := riskierFirst) fun _ _ _ _ => rfl).symm

/-- The headings that the program writes do not depend on the texts of the model and the scanner. -/
theorem frame_withoutText
    (report : SecurityReport) :
    frame report.withoutText = frame report := by
  have hscan : (report.withoutText.dependencyScan.map fun outcome =>
        "## Dependency Scan" :: headings (toolLine outcome.tool)) =
      report.dependencyScan.map fun outcome =>
        "## Dependency Scan" :: headings (toolLine outcome.tool) := by
    rw [SecurityReport.withoutText, Option.map_map]
    rfl
  have hfiles : ((flaggedFiles report.withoutText.files).flatMap fun file =>
        headings (fileTitle file ++ "\n\n")) =
      (flaggedFiles report.files).flatMap fun file => headings (fileTitle file ++ "\n\n") := by
    rw [SecurityReport.withoutText, flaggedFiles_map_withoutText, List.flatMap_map]
    rfl
  rw [frame, frame, hscan, hfiles]
  rfl

/-- Names that are no foreign text and start no heading. -/
@[mk_iff]
structure HasPlainNames (report : SecurityReport) : Prop where
  target : ¬ Breaks report.metadata.target
  time : ¬ Breaks report.metadata.generatedAt
  model : ∀ model ∈ report.metadata.model, ¬ Breaks model
  tool : ∀ outcome ∈ report.dependencyScan, ∀ tool ∈ outcome.tool, ¬ Breaks tool
  files : ∀ file ∈ report.files, file.vulnerabilities ≠ [] → '\n' ∉ file.file.toList

/-- The headings of a report that lists its files: the title, the sections and one for each file with
findings. -/
def outline (report : SecurityReport) : List String :=
  ["# Security Scan Report", "## Summary", "## Findings by Severity"]
    ++ (if report.dependencyScan.isSome then ["## Dependency Scan"] else [])
    ++ "## Files" :: (flaggedFiles report.files).map fileTitle

theorem frame_eq_outline
    {report : SecurityReport}
    (hnames : HasPlainNames report) :
    frame report = outline report := by
  have hscan : (report.dependencyScan.map fun outcome =>
        "## Dependency Scan" :: headings (toolLine outcome.tool)).getD [] =
      if report.dependencyScan.isSome then ["## Dependency Scan"] else [] := by
    cases hfound : report.dependencyScan with
    | none =>
        rfl
    | some outcome =>
        rw [Option.map_some, Option.getD_some, headings_toolLine (hnames.tool outcome hfound)]
        rfl
  have hfiles : ((flaggedFiles report.files).flatMap fun file =>
        headings (fileTitle file ++ "\n\n")) = (flaggedFiles report.files).map fileTitle := by
    rw [List.map_eq_flatMap]
    refine List.flatMap_congr fun file hfile => headings_fileTitle ?_
    obtain ⟨hlisted, hflagged⟩ := (mem_flaggedFiles_iff report.files file).mp hfile
    exact hnames.files file hlisted hflagged
  rw [frame, headings_header hnames.target hnames.time hnames.model, hscan, hfiles]
  rfl

end Report

/--
Foreign texts start no heading exactly where they are plain.

Two reports are given that differ only in texts of the model and of the dependency scanner, and the
texts of the first one are plain: none of them has a number sign right after a line feed, and no summary
of a file with findings begins with one.  Then the page of the second report has the same headings if
and only if its texts are plain, too.  These headings are the title, the summary, the findings by
severity, the dependency scan if there was one, the files, and one for each file with findings, if the
project, the model, the launcher and the files have plain names.
-/
theorem headings_same_iff
    {a b : SecurityReport}
    (hsame : a.withoutText = b.withoutText)
    (ha : IsPlain a) :
    (headings (security b) = headings (security a) ↔ IsPlain b) ∧
      (HasPlainNames a → headings (security a) = outline a) := by
  have hframe : frame a = frame b := by
    rw [← frame_withoutText a, hsame, frame_withoutText]
  have hown : headings (security a) = frame a := (framed_security a).headings_eq_iff.mpr ha
  refine ⟨?_, ?_⟩
  · rw [hown, hframe]
    exact (framed_security b).headings_eq_iff
  · intro hnames
    rw [hown, frame_eq_outline hnames]

/-- A report on one file with one finding and on one dependency. -/
def sampleReport (summary advisory : String) : SecurityReport where
  metadata := ⟨⟨0⟩, "scan", "/p", "2024-01-01T00:00:00+00:00", "0.1.0", some "m"⟩
  summary := ⟨1, 0, 2, ⟨0, 2, 0, 0⟩, .num 7, some .high⟩
  files := [⟨"a.py", some "python",
    [⟨"Injection", .high, some 1, "A query is built from input.", none, "a.py", .model, none, none⟩],
    .num 2, some (.num 7), .num 7, .high, some summary⟩]
  dependencyScan := some ⟨some "cli",
    [⟨"Vulnerable Dependency", .high, none, advisory, none, "x.jar", .dependencyScanner,
      some "CVE-2024-1", some (.num 7)⟩], []⟩

theorem sampleReport_plain
    {summary : String}
    (hbegins : ¬ Begins summary)
    (hbreaks : ¬ Breaks summary)
    (advisory : String) :
    IsPlain (sampleReport summary advisory) := by
  constructor
  · rintro outcome ⟨⟩
    constructor <;> simp +decide
  · simp +decide [sampleReport, isPlainFile_iff, isInline_iff, hbegins, hbreaks]

/-- A summary with several lines and any description of a dependency leave the headings as they are. -/
theorem sampleReport_headings :
    let plain := sampleReport "One finding." "Deserialization."
    let other := sampleReport "See #1.\nNo other findings." "# Critical\n# Upgrade now"
    plain.withoutText = other.withoutText ∧ IsPlain plain ∧
      headings (security other) = headings (security plain) ∧
      headings (security plain) = ["# Security Scan Report", "## Summary",
        "## Findings by Severity", "## Dependency Scan", "## Files",
        "### \x60a.py\x60 (High · 7.0/10)"] := by
  intro plain other
  have hsame : plain.withoutText = other.withoutText := rfl
  have hplain : IsPlain plain := sampleReport_plain (by decide) (by decide) _
  have hother : IsPlain other := sampleReport_plain (by decide) (by decide) _
  have hnames : HasPlainNames plain := by
    constructor <;> simp +decide [plain, sampleReport]
  obtain ⟨hiff, hheadings⟩ := headings_same_iff hsame hplain
  refine ⟨hsame, hplain, hiff.mpr hother, ?_⟩
  have hflagged : flaggedFiles plain.files = plain.files := List.mergeSort_singleton _
  rw [hheadings hnames, outline, hflagged]
  decide +kernel

/-- A summary that is a heading adds one to the report. -/
theorem summary_forges_heading :
    let plain := sampleReport "One finding." "Deserialization."
    let forged := sampleReport "# Forged" "Deserialization."
    plain.withoutText = forged.withoutText ∧
      headings (security forged) ≠ headings (security plain) := by
  intro plain forged
  have hplain : IsPlain plain := sampleReport_plain (by decide) (by decide) _
  have hframe : frame plain = frame forged := by
    rw [← frame_withoutText, ← frame_withoutText forged]
    rfl
  have hforged : ¬ IsPlain forged := by
    intro hforged
    have hfile := hforged.files _ (List.mem_singleton_self _) (List.cons_ne_nil _ _)
    exact absurd (hfile.summary _ rfl).1 (by decide)
  refine ⟨rfl, ?_⟩
  rw [(framed_security plain).headings_eq_iff.mpr hplain, hframe]
  exact fun hsame => hforged ((framed_security forged).headings_eq_iff.mp hsame)

end Markdown
end CodeAudit
