import CodeAudit.Proofs.Floating.TotalOrder
import CodeAudit.Proofs.Report.Headings
import CodeAudit.Proofs.Security.Risk
import CodeAudit.Proofs.Sorting
import Mathlib.Data.String.Basic

/-!
# The files of a security report

The page of a security report ends with the files that have findings.  They are sorted by their risks
and then by their names, which is a lexicographic order, so the order of the report itself does not
matter where names are not repeated.  The files without findings are only counted, on the last line of
the page.

A scan grades each file by its risk, and a greater risk is not graded less severe.  So the severities in
the titles never rise from one file to the next.

**Results.**
* `riskierFirst_iff`: the comparison of the program is a lexicographic order.
* `getLast?_lines_security`: the last line of the page.
* `listsFiles_flaggedFiles`: what the page lists, and in which order.
* `files_listed_by_risk`: the list, its order, and the severities of a scan.
-/

namespace CodeAudit
namespace Markdown

/-! ## The order -/

section Order

variable {a b : FileSecurityReport}

/-- A file may stand before another one: its risk is greater, or its risk is the same and its name is
not greater. -/
def ListedBefore (a b : FileSecurityReport) : Prop :=
  Floating.before b.riskScore a.riskScore = true ∨
    a.riskScore = b.riskScore ∧ a.file ≤ b.file

/-- The place of a file in the list. -/
def fileRank (file : FileSecurityReport) : (Int ×ₗ Rat ×ₗ Nat)ᵒᵈ ×ₗ String :=
  toLex (OrderDual.toDual file.riskScore.rank, file.file)

theorem fileRank_le_iff :
    fileRank a ≤ fileRank b ↔ ListedBefore a b := by
  rw [fileRank, fileRank, Prod.Lex.toLex_le_toLex, ListedBefore, Floating.before_iff_rank_lt,
    OrderDual.toDual_lt_toDual, OrderDual.toDual_inj, Floating.rank_injective.eq_iff]

theorem riskierFirst_iff :
    riskierFirst a b = true ↔ ListedBefore a b := by
  rw [riskierFirst, ListedBefore]
  rcases lt_trichotomy a.riskScore.rank b.riskScore.rank with hlt | heq | hgt
  · have hrisk : a.riskScore ≠ b.riskScore := fun heq => hlt.ne (congrArg Floating.rank heq)
    have hafter : ¬ Floating.before b.riskScore a.riskScore = true := by
      rw [Floating.before_iff_rank_lt]
      exact hlt.asymm
    rw [if_neg hafter, if_pos ((Floating.before_iff_rank_lt _ _).mpr hlt)]
    simp [hafter, hrisk]
  · have hrisk : a.riskScore = b.riskScore := Floating.rank_injective heq
    have hself : ¬ Floating.before b.riskScore b.riskScore = true := by
      rw [Floating.before_iff_rank_lt]
      exact lt_irrefl _
    rw [hrisk, if_neg hself, if_neg hself]
    simp [hself, ← String.not_lt]
  · have hbefore := (Floating.before_iff_rank_lt _ _).mpr hgt
    rw [if_pos hbefore]
    simp [hbefore]

theorem riskierFirst_iff_fileRank_le :
    riskierFirst a b = true ↔ fileRank a ≤ fileRank b :=
  riskierFirst_iff.trans fileRank_le_iff.symm

theorem riskierFirst_trans
    (a b c : FileSecurityReport)
    (hab : riskierFirst a b)
    (hbc : riskierFirst b c) :
    riskierFirst a c := by
  rw [riskierFirst_iff_fileRank_le] at *
  exact hab.trans hbc

theorem riskierFirst_total
    (a b : FileSecurityReport) :
    riskierFirst a b || riskierFirst b a := by
  rw [Bool.or_eq_true, riskierFirst_iff_fileRank_le, riskierFirst_iff_fileRank_le]
  exact le_total _ _

/-- Files that may stand before each other have one name. -/
theorem file_eq_of_riskierFirst
    (hab : riskierFirst a b)
    (hba : riskierFirst b a) :
    a.file = b.file := by
  rw [riskierFirst_iff_fileRank_le] at hab hba
  exact congrArg (fun rank => (ofLex rank).2) (le_antisymm hab hba)

end Order

/-! ## The list -/

section List

variable (files : List FileSecurityReport)

/-- Of the files only those with findings. -/
def withFindings (files : List FileSecurityReport) : List FileSecurityReport :=
  files.filter fun file => !file.vulnerabilities.isEmpty

theorem flaggedFiles_perm :
    (flaggedFiles files).Perm (withFindings files) :=
  List.mergeSort_perm _ _

theorem pairwise_flaggedFiles :
    (flaggedFiles files).Pairwise ListedBefore := by
  have hsorted :=
    List.pairwise_mergeSort riskierFirst_trans riskierFirst_total (withFindings files)
  exact hsorted.imp fun hab => riskierFirst_iff.mp hab

/-- Files in another order are listed in the same one, if no name is repeated. -/
theorem flaggedFiles_perm_eq
    {files files' : List FileSecurityReport}
    (hperm : files'.Perm files)
    (hnames : ((flaggedFiles files).map FileSecurityReport.file).Nodup) :
    flaggedFiles files' = flaggedFiles files := by
  rw [((flaggedFiles_perm files).map _).nodup_iff] at hnames
  refine (Sorting.mergeSort_eq_of_perm riskierFirst_trans riskierFirst_total
    (hperm.filter _).symm ?_).symm
  intro a ha b hb hab hba
  exact List.inj_on_of_nodup_map hnames ha hb (file_eq_of_riskierFirst hab hba)

theorem filesSection_perm_eq
    {files files' : List FileSecurityReport}
    (hperm : files'.Perm files)
    (hnames : ((flaggedFiles files).map FileSecurityReport.file).Nodup) :
    filesSection files' = filesSection files := by
  rw [filesSection, filesSection, flaggedFiles_perm_eq hperm hnames, hperm.length_eq]

end List

/-! ## The page -/

/-- The line about the files without findings. -/
def cleanLine (count : Nat) : String := toString count ++ " other file(s) had no findings."

/-- The page of a security report up to the files. -/
def beforeFiles
    (metadata : Metadata)
    (summary : SecuritySummary)
    (scan : Option DependencyOutcome) : String :=
  header "Security Scan Report" metadata ++ securitySummary summary
    ++ "## Findings by Severity\n\n" ++ severityTable summary.severityCounts
    ++ (scan.map dependencySection).getD ""

/-- The last line of a page that lists files and leaves others out. -/
def lastLine
    (listed : List FileSecurityReport)
    (clean : Nat) : String :=
  if listed = [] then "No source-level findings."
  else if 0 < clean then cleanLine clean
  else ""

/-- The text of a finding: what it is, where, and what is advised. -/
def findingText (v : Vulnerability) : String :=
  "- **[" ++ v.severity.label ++ "] " ++ v.kind ++ "**"
    ++ (v.line.map fun line => " (line " ++ toString line ++ ")").getD ""
    ++ (v.cve.map fun cve => " \x60" ++ cve ++ "\x60").getD ""
    ++ ": " ++ v.description ++ " _(" ++ v.source.label ++ ")_\n"
    ++ (v.recommendation.map fun advice => "  - Recommendation: " ++ advice ++ "\n").getD ""

/-- The page of a report lists files by their risks. -/
structure ListsFiles
    (report : SecurityReport)
    (listed : List FileSecurityReport) : Prop where
  /-- Every file with findings is listed as often as the report has it, and no other file is. -/
  files : listed.Perm (withFindings report.files)
  sorted : listed.Pairwise ListedBefore
  /-- A listed file is shown with its title, its summary and all its findings in order. -/
  page :
    security report =
      beforeFiles report.metadata report.summary report.dependencyScan ++ "## Files\n\n" ++
        (if listed = [] then "No source-level findings.\n"
          else
            String.join (listed.map fun file =>
              "### \x60" ++ file.file ++ "\x60 (" ++ file.severity.label ++ " · "
                ++ file.riskScore.fixedText 1 ++ "/10)\n\n"
                ++ (file.modelSummary.map (· ++ "\n\n")).getD ""
                ++ String.join (file.vulnerabilities.map findingText) ++ "\n")
              ++ (if listed.length < report.files.length then
                    cleanLine (report.files.length - listed.length) ++ "\n"
                  else ""))
  /-- The page ends with the number of the other files if some file is listed and some is not. -/
  closing :
    ∀ count,
      (Text.lines (security report)).getLast? = some (cleanLine count) ↔
        listed ≠ [] ∧ 0 < count ∧ count + listed.length = report.files.length

section Page

theorem cleanLine_inj
    {m n : Nat} :
    cleanLine m = cleanLine n ↔ m = n := by
  constructor
  · intro hsame
    have htexts := congrArg String.toList hsame
    rw [cleanLine, cleanLine, String.toList_append, String.toList_append,
      List.append_cancel_right_eq] at htexts
    have hdigits : Nat.toDigits 10 m = Nat.toDigits 10 n := by
      simpa [toString, Nat.repr] using htexts
    have hvalue := congrArg (fun digits => Nat.ofDigitChars 10 digits 0) hdigits
    simpa [Nat.ofDigitChars_toDigits] using hvalue
  · rintro rfl
    rfl

theorem length_cleanLine
    (count : Nat) :
    31 ≤ (cleanLine count).length := by
  have hrest : " other file(s) had no findings.".length = 31 := by decide
  rw [cleanLine, String.length_append, hrest]
  omega

theorem cleanLine_feed
    (count : Nat) :
    toString count ++ " other file(s) had no findings.\n" = cleanLine count ++ "\n" := by
  have hend : " other file(s) had no findings.\n" = " other file(s) had no findings." ++ "\n" := by
    decide
  rw [hend, cleanLine, String.append_assoc]

theorem feed_not_mem_cleanLine
    (count : Nat) :
    '\n' ∉ (cleanLine count).toList := by
  have hrest : '\n' ∉ " other file(s) had no findings.".toList := by decide
  rw [cleanLine, String.toList_append, List.mem_append, not_or]
  exact ⟨feed_not_mem_toString count, hrest⟩

theorem getLast?_cleanLine
    (count : Nat) :
    (cleanLine count).toList.getLast? = some '.' := by
  have hrest : " other file(s) had no findings.".toList.getLast? = some '.' := by decide
  rw [cleanLine, String.toList_append, List.getLast?_append, hrest, Option.some_or]

/-- The last line tells how many files are left out. -/
theorem lastLine_eq_cleanLine_iff
    {listed : List FileSecurityReport}
    {clean count : Nat} :
    lastLine listed clean = cleanLine count ↔ listed ≠ [] ∧ 0 < clean ∧ clean = count := by
  have hlength := length_cleanLine count
  have hother : ∀ {line : String}, line.length < 31 → line ≠ cleanLine count := by
    rintro _ hshort rfl
    omega
  unfold lastLine
  split
  · next hnone =>
    have hshort : "No source-level findings.".length < 31 := by decide
    simp [hnone, hother hshort]
  · next hsome =>
    split
    · next hclean =>
      simp [hsome, hclean, cleanLine_inj]
    · next hclean =>
      have hshort : "".length < 31 := by decide
      simp [hclean, hother hshort]

theorem wholeLines_filesTitle
    (front : String) :
    Text.WholeLines (front ++ "## Files\n\n") := by
  have hend : "## Files\n\n".toList.getLast? = some '\n' := by decide
  right
  rw [String.toList_append, List.getLast?_append, hend, Option.some_or]

theorem wholeLines_fileSections
    (files : List FileSecurityReport) :
    Text.WholeLines (String.join (files.map fileSection)) := by
  apply Text.wholeLines_join
  intro item hitem
  obtain ⟨file, -, rfl⟩ := List.mem_map.mp hitem
  exact (framed_fileSection file).ends

theorem getLast?_lines_filesSection
    (front : String)
    (files : List FileSecurityReport) :
    (Text.lines (front ++ filesSection files)).getLast? =
      some (lastLine (flaggedFiles files) (files.length - (flaggedFiles files).length)) := by
  rw [filesSection, lastLine, ← String.append_assoc]
  generalize files.length - (flaggedFiles files).length = clean
  have htitle := wholeLines_filesTitle front
  rcases List.eq_nil_or_concat' (flaggedFiles files) with hnone | ⟨init, last, hsome⟩
  · have hline : "No source-level findings.\n" = "No source-level findings." ++ "\n" := by decide
    rw [hnone, List.isEmpty_nil, if_pos rfl, if_pos rfl, hline]
    exact Text.getLast?_lines_append htitle (by decide) (by decide)
  · have hne : init ++ [last] ≠ [] := List.append_ne_nil_of_right_ne_nil _ (by simp)
    rw [hsome, if_neg (by simp), if_neg hne]
    split
    · -- The files that are left out have a line of their own.
      rw [cleanLine_feed, ← String.append_assoc]
      refine Text.getLast?_lines_append (htitle.append (wholeLines_fileSections _))
        (feed_not_mem_cleanLine clean) ?_
      rw [getLast?_cleanLine]
      decide
    · -- The part about the last file ends with an empty line.
      have hlast : String.join ((init ++ [last]).map fileSection) ++ "" =
          String.join (init.map fileSection) ++ (fileHead last ++ ("" ++ "\n")) := by
        rw [List.map_append, String.join_append, List.map_singleton, fileSection_eq]
        simp
      rw [hlast, ← String.append_assoc, ← String.append_assoc]
      have hlisted := htitle.append (wholeLines_fileSections init)
      exact Text.getLast?_lines_append (hlisted.append (framed_fileHead last).ends) (by decide)
        (by decide)

theorem vulnerabilityItem_eq
    (v : Vulnerability) :
    vulnerabilityItem v = findingText v := by
  unfold vulnerabilityItem findingText
  cases v.line <;> cases v.cve <;> cases v.recommendation <;> rfl

/-- A file is shown with its title, its summary and all its findings. -/
theorem fileSection_shows
    (file : FileSecurityReport) :
    fileSection file =
      "### \x60" ++ file.file ++ "\x60 (" ++ file.severity.label ++ " · "
        ++ file.riskScore.fixedText 1 ++ "/10)\n\n"
        ++ (file.modelSummary.map (· ++ "\n\n")).getD ""
        ++ String.join (file.vulnerabilities.map findingText) ++ "\n" := by
  have hitems : file.vulnerabilities.map vulnerabilityItem = file.vulnerabilities.map findingText :=
    List.map_congr_left fun v _ => vulnerabilityItem_eq v
  have hclose : "/10)\n\n" = "/10" ++ ")\n\n" := by decide
  unfold fileSection outOfTen
  cases file.modelSummary <;>
    simp only [hitems, hclose, String.append_assoc, Option.map_none, Option.map_some, Option.getD_none,
      Option.getD_some]

theorem listsFiles_flaggedFiles
    (report : SecurityReport) :
    ListsFiles report (flaggedFiles report.files) where
  files := flaggedFiles_perm report.files
  sorted := pairwise_flaggedFiles report.files
  page := by
    have hsections : ((flaggedFiles report.files).map fun file =>
          "### \x60" ++ file.file ++ "\x60 (" ++ file.severity.label ++ " · "
            ++ file.riskScore.fixedText 1 ++ "/10)\n\n"
            ++ (file.modelSummary.map (· ++ "\n\n")).getD ""
            ++ String.join (file.vulnerabilities.map findingText) ++ "\n") =
        (flaggedFiles report.files).map fileSection :=
      List.map_congr_left fun file _ => (fileSection_shows file).symm
    have hpage : security report =
        beforeFiles report.metadata report.summary report.dependencyScan
          ++ filesSection report.files := rfl
    rw [hsections, hpage, filesSection, ← String.append_assoc]
    simp only [List.isEmpty_iff, Nat.sub_pos_iff_lt, cleanLine_feed]
  closing := by
    intro count
    have hle : (flaggedFiles report.files).length ≤ report.files.length := by
      rw [(flaggedFiles_perm report.files).length_eq]
      exact List.length_filter_le _ _
    have hpage : security report =
        beforeFiles report.metadata report.summary report.dependencyScan
          ++ filesSection report.files := rfl
    rw [hpage, getLast?_lines_filesSection, Option.some.injEq, lastLine_eq_cleanLine_iff]
    constructor
    · rintro ⟨hsome, hclean, hcount⟩
      exact ⟨hsome, by omega, by omega⟩
    · rintro ⟨hsome, hcount, hall⟩
      exact ⟨hsome, by omega, by omega⟩

end Page

/-! ## The severities of a scan -/

/-- Files that are graded by risks on the scale are listed by falling severities. -/
theorem pairwise_severity_flaggedFiles
    {files : List FileSecurityReport}
    (hscored : ∀ file ∈ files, OnScale file.riskScore)
    (hgraded : ∀ file ∈ files, file.severity = .ofScore file.riskScore) :
    (flaggedFiles files).Pairwise fun a b => b.severity.level ≤ a.severity.level := by
  refine (pairwise_flaggedFiles files).imp_of_mem ?_
  intro a b ha hb hab
  have hafile := ((mem_flaggedFiles_iff files a).mp ha).1
  have hbfile := ((mem_flaggedFiles_iff files b).mp hb).1
  obtain ⟨riskA, hvalueA, -⟩ := hscored a hafile
  obtain ⟨riskB, hvalueB, -⟩ := hscored b hbfile
  have hrank : b.riskScore.rank ≤ a.riskScore.rank := by
    rcases hab with hbefore | ⟨hsame, -⟩
    · exact ((Floating.before_iff_rank_lt _ _).mp hbefore).le
    · rw [hsame]
  rw [hgraded a hafile, hgraded b hbfile]
  exact Severity.level_ofScore_le fun _ => Floating.atLeast_of_rank_le hvalueB hvalueA hrank

/--
The page of a security report lists each file with findings once, with all its findings, and no other
file.  The files stand by falling risk and, where the risk is the same, by rising name.  The number of
the other files is the last line of the page if some file is listed and there are others.

If the listed files have distinct names, the order of the files in the report does not change the page.
If the files are those of a scan, no severity in a title is worse than the one in the title before.
-/
theorem files_listed_by_risk
    (report : SecurityReport) :
    ListsFiles report (flaggedFiles report.files) ∧
      (((flaggedFiles report.files).map FileSecurityReport.file).Nodup →
        ∀ files, files.Perm report.files →
          security { report with files := files } = security report) ∧
      ∀ scanner read earlier sources,
        report.files = (Security.scan scanner read earlier sources).reports →
        (flaggedFiles report.files).Pairwise fun a b => b.severity.level ≤ a.severity.level := by
  refine ⟨listsFiles_flaggedFiles report, ?_, ?_⟩
  · intro hnames files hperm
    have hsection := filesSection_perm_eq hperm hnames
    rw [security, security, hsection]
  · intro scanner read earlier sources hfiles
    rw [hfiles]
    exact pairwise_severity_flaggedFiles
      (fun file hfile => (Security.scored_of_mem_scanFrom file hfile).risk)
      Security.severity_of_mem_scanFrom

/-- A file with this name, findings and risk. -/
def sampleFile
    (name : String)
    (findings : List Vulnerability)
    (risk : Floating) : FileSecurityReport :=
  ⟨name, none, findings, risk, none, risk, .ofScore risk, none⟩

/--
Two files with findings may change places, and the third file is counted on the last line.  The riskier
file comes first, and each file stands above its finding.
-/
theorem sampleFiles_listed :
    let finding := Security.sampleFinding .high none
    let known := { finding with cve := some "CVE-1", recommendation := some "Use another call." }
    let a := sampleFile "a.py" [finding] (.num 7)
    let b := sampleFile "b.py" [known] (.num (15 / 2))
    let clean := sampleFile "c.py" [] (.num 0)
    let report := { sampleReport "" "" with files := [a, clean, b] }
    ((flaggedFiles report.files).map FileSecurityReport.file).Nodup ∧
      security { report with files := [b, a, clean] } = security report ∧
      security report =
        beforeFiles report.metadata report.summary report.dependencyScan ++ "## Files\n\n" ++
          ("### \x60b.py\x60 (High · 7.5/10)\n\n"
            ++ "- **[High] Weakness** (line 1) \x60CVE-1\x60: weak _(heuristic)_\n"
            ++ "  - Recommendation: Use another call.\n\n"
            ++ "### \x60a.py\x60 (High · 7.0/10)\n\n"
            ++ "- **[High] Weakness** (line 1): weak _(heuristic)_\n\n"
            ++ "1 other file(s) had no findings.\n") ∧
      (Text.lines (security report)).getLast? = some "1 other file(s) had no findings." := by
  intro finding known a b clean report
  obtain ⟨hlists, hreordered, -⟩ := files_listed_by_risk report
  have hperm : [b, a, clean].Perm report.files :=
    (List.Perm.swap a b [clean]).trans ((List.Perm.swap clean b []).cons a)
  have hflagged : flaggedFiles [b, a, clean] = [b, a] :=
    List.mergeSort_of_pairwise (by decide +kernel)
  have hlisted : flaggedFiles report.files = [b, a] := by
    rw [flaggedFiles_perm_eq hperm.symm (by rw [hflagged]; decide), hflagged]
  have hnames : ((flaggedFiles report.files).map FileSecurityReport.file).Nodup := by
    rw [hlisted]
    decide
  have hlists : ListsFiles report [b, a] := hlisted ▸ hlists
  have hclosing := (hlists.closing 1).mpr ⟨by simp, by decide, rfl⟩
  refine ⟨hnames, hreordered hnames _ hperm, ?_, hclosing⟩
  refine hlists.page.trans (congrArg (fun listed =>
    beforeFiles report.metadata report.summary report.dependencyScan ++ "## Files\n\n" ++ listed) ?_)
  decide +kernel

end Markdown
end CodeAudit
