import CodeAudit.Dependency.Report
import CodeAudit.Proofs.Json.Decoding
import CodeAudit.Proofs.Sorting
import CodeAudit.Proofs.Text.Trimming

/-!
# The findings of a report

A text is a report of the dependency scanner if its document fits a schema: a record of dependencies,
each of them a record with a file name and a list of vulnerabilities, each of those a record with a
name and up to four other parts.  `Reports` says so part by part, and what dependencies the report
lists.  Every vulnerability of every dependency becomes one finding; these are put in order by their
severity, and else stay in the order of the report.  If any part of the document does not fit, there
are no findings at all.

**Results.**
* `decodes_vulnerability`, `decodes_dependency`, `decodes_report`: what the readers accept.
* `findings_eq_ok_iff`: the texts with findings.
* `findings_of_misfit`: one part that does not fit spoils the report.
* `becomes_finding`: the finding for a vulnerability.
* `findings_characterised`: all of it.
-/

namespace CodeAudit
namespace Dependency

open Json

/-! ## The schema of a report -/

/-- A node is a record of one number. -/
structure IsScore
    (key : String)
    (node : Node)
    (score : Floating) : Prop where
  record : node.FitsRecord [key]
  score : Node.Present Node.IsReal (node.part? [key] key) score

/-- The names of the parts of a vulnerability. -/
def vulnerabilityNames : List String := ["name", "severity", "description", "cvssv2", "cvssv3"]

/-- A node is a vulnerability; all parts but the name may be absent or `null`. -/
structure IsVulnerability
    (node : Node)
    (v : ReportedVulnerability) : Prop where
  record : node.FitsRecord vulnerabilityNames
  name : Node.Present Node.IsText (node.part? vulnerabilityNames "name") v.name
  severity :
    Node.PresentOr none (Node.OrNull Node.IsText)
      (node.part? vulnerabilityNames "severity") v.severity
  description :
    Node.PresentOr none (Node.OrNull Node.IsText)
      (node.part? vulnerabilityNames "description") v.description
  oldScore :
    Node.PresentOr none (Node.OrNull (IsScore "score"))
      (node.part? vulnerabilityNames "cvssv2") v.oldScore
  newScore :
    Node.PresentOr none (Node.OrNull (IsScore "baseScore"))
      (node.part? vulnerabilityNames "cvssv3") v.newScore

/-- The names of the parts of a dependency. -/
def dependencyNames : List String := ["fileName", "vulnerabilities"]

/-- A node is a dependency; the list of vulnerabilities may be absent. -/
structure IsDependency
    (node : Node)
    (d : ReportedDependency) : Prop where
  record : node.FitsRecord dependencyNames
  fileName : Node.Present Node.IsText (node.part? dependencyNames "fileName") d.fileName
  vulnerabilities :
    Node.PresentOr [] (Node.IsList IsVulnerability)
      (node.part? dependencyNames "vulnerabilities") d.vulnerabilities

/-- The names of the parts of a report. -/
def reportNames : List String := ["dependencies"]

/-- A node is a report; the list of dependencies may be absent. -/
structure IsReport
    (node : Node)
    (dependencies : List ReportedDependency) : Prop where
  record : node.FitsRecord reportNames
  dependencies :
    Node.PresentOr [] (Node.IsList IsDependency)
      (node.part? reportNames "dependencies") dependencies

/-- A text is a report of dependencies, and nothing follows. -/
def Reports
    (text : String)
    (dependencies : List ReportedDependency) : Prop :=
  IsReport (document text).node dependencies ∧ (document text).trailing = none

/-! ## Reading a report -/

section Reading

theorem decodes_score
    (name key : String) :
    Decodes (Reader.record name [.required key Reader.real]).Gives
      (fun scores => scores.field? key Value.asReal?) (IsScore key) := by
  have hscore := Decodes.real.required key
  refine Decodes.record ?_ ?_ ?_ ?_
  · constructor <;> simp [Member.name, Member.required]
  · intro node value hrecord
    obtain ⟨x, hx, hsaid⟩ := hrecord.exists_field hscore List.mem_cons_self
    exact ⟨x, hx, hrecord.fits, hsaid⟩
  · rintro node x ⟨hfits, hsaid⟩
    exact ⟨hfits, List.forall_mem_singleton.mpr (hscore.exists_gives hsaid)⟩
  · rintro node value x hrecord ⟨-, hsaid⟩
    exact hrecord.field_eq hscore List.mem_cons_self hsaid

/-- A score is no `null`. -/
theorem not_isScore_null
    (key : String)
    (start stop : Nat)
    (score : Floating) :
    ¬ IsScore key (.null start stop) score :=
  fun hscore => hscore.record

theorem not_isText_null
    (start stop : Nat)
    (text : String) :
    ¬ Node.IsText (.null start stop) text := by
  rintro ⟨⟩

theorem ReportedVulnerability.ofValue?_of_fields
    {value : Value}
    {v : ReportedVulnerability}
    (hname : value.field? "name" Value.asText? = some v.name)
    (hseverity : value.field? "severity" (Value.asOption? Value.asText?) = some v.severity)
    (hdescription :
      value.field? "description" (Value.asOption? Value.asText?) = some v.description)
    (hold : value.field? "cvssv2" (Value.asOption? fun scores =>
      scores.field? "score" Value.asReal?) = some v.oldScore)
    (hnew : value.field? "cvssv3" (Value.asOption? fun scores =>
      scores.field? "baseScore" Value.asReal?) = some v.newScore) :
    ofValue? value = some v := by
  rw [ofValue?, hname, hseverity, hdescription, hold, hnew]
  rfl

theorem decodes_vulnerability :
    Decodes ReportedVulnerability.reader.Gives ReportedVulnerability.ofValue? IsVulnerability := by
  have htext := Decodes.text.optional rfl not_isText_null
  have hscore := fun name key => (decodes_score name key).optional rfl (not_isScore_null key)
  have hname := Decodes.text.required "name"
  have hseverity := htext.defaulted "severity" .null rfl
  have hdescription := htext.defaulted "description" .null rfl
  have hold := (hscore "CvssV2" "score").defaulted "cvssv2" .null rfl
  have hnew := (hscore "CvssV3" "baseScore").defaulted "cvssv3" .null rfl
  refine Decodes.record ?_ ?_ ?_ ?_
  · constructor <;> simp [Member.name, Member.required, Member.defaulted]
  · intro node value hrecord
    obtain ⟨name, hname', hsaid₁⟩ := hrecord.exists_field hname (by simp)
    obtain ⟨severity, hseverity', hsaid₂⟩ := hrecord.exists_field hseverity (by simp)
    obtain ⟨description, hdescription', hsaid₃⟩ := hrecord.exists_field hdescription (by simp)
    obtain ⟨old, hold', hsaid₄⟩ := hrecord.exists_field hold (by simp)
    obtain ⟨new, hnew', hsaid₅⟩ := hrecord.exists_field hnew (by simp)
    exact ⟨⟨name, severity, description, old, new⟩,
      ReportedVulnerability.ofValue?_of_fields hname' hseverity' hdescription' hold' hnew',
      hrecord.fits, hsaid₁, hsaid₂, hsaid₃, hsaid₄, hsaid₅⟩
  · intro node v hv
    refine ⟨hv.record, ?_⟩
    simp only [List.forall_mem_cons]
    exact ⟨hname.exists_gives hv.name, hseverity.exists_gives hv.severity,
      hdescription.exists_gives hv.description, hold.exists_gives hv.oldScore,
      hnew.exists_gives hv.newScore, List.forall_mem_nil _⟩
  · intro node value v hrecord hv
    exact ReportedVulnerability.ofValue?_of_fields
      (hrecord.field_eq hname (by simp) hv.name)
      (hrecord.field_eq hseverity (by simp) hv.severity)
      (hrecord.field_eq hdescription (by simp) hv.description)
      (hrecord.field_eq hold (by simp) hv.oldScore)
      (hrecord.field_eq hnew (by simp) hv.newScore)

theorem ReportedDependency.ofValue?_of_fields
    {value : Value}
    {d : ReportedDependency}
    (hfile : value.field? "fileName" Value.asText? = some d.fileName)
    (hlist : value.field? "vulnerabilities" (Value.asListOf? ReportedVulnerability.ofValue?) =
      some d.vulnerabilities) :
    ofValue? value = some d := by
  rw [ofValue?, hfile, hlist]
  rfl

theorem decodes_dependency :
    Decodes ReportedDependency.reader.Gives ReportedDependency.ofValue? IsDependency := by
  have hfile := Decodes.text.required "fileName"
  have hlist := decodes_vulnerability.list.defaulted "vulnerabilities" (.list []) rfl
  refine Decodes.record ?_ ?_ ?_ ?_
  · constructor <;> simp [Member.name, Member.required, Member.defaulted]
  · intro node value hrecord
    obtain ⟨file, hfile', hsaid₁⟩ := hrecord.exists_field hfile (by simp)
    obtain ⟨vulnerabilities, hlist', hsaid₂⟩ := hrecord.exists_field hlist (by simp)
    exact ⟨⟨file, vulnerabilities⟩, ReportedDependency.ofValue?_of_fields hfile' hlist',
      hrecord.fits, hsaid₁, hsaid₂⟩
  · intro node d hd
    refine ⟨hd.record, ?_⟩
    simp only [List.forall_mem_cons]
    exact ⟨hfile.exists_gives hd.fileName, hlist.exists_gives hd.vulnerabilities,
      List.forall_mem_nil _⟩
  · intro node value d hrecord hd
    exact ReportedDependency.ofValue?_of_fields
      (hrecord.field_eq hfile (by simp) hd.fileName)
      (hrecord.field_eq hlist (by simp) hd.vulnerabilities)

theorem decodes_report :
    Decodes reportReader.Gives dependenciesOf? IsReport := by
  have hlist := decodes_dependency.list.defaulted "dependencies" (.list []) rfl
  refine Decodes.record ?_ ?_ ?_ ?_
  · constructor <;> simp [Member.name, Member.defaulted]
  · intro node value hrecord
    obtain ⟨dependencies, hlist', hsaid⟩ := hrecord.exists_field hlist List.mem_cons_self
    exact ⟨dependencies, hlist', hrecord.fits, hsaid⟩
  · rintro node dependencies ⟨hfits, hsaid⟩
    exact ⟨hfits, List.forall_mem_singleton.mpr (hlist.exists_gives hsaid)⟩
  · rintro node value dependencies hrecord ⟨-, hsaid⟩
    exact hrecord.field_eq hlist List.mem_cons_self hsaid

/-- A text is a report of one list of dependencies at most. -/
theorem Reports.unique
    {text : String}
    {dependencies dependencies' : List ReportedDependency}
    (hreports : Reports text dependencies)
    (hreports' : Reports text dependencies') :
    dependencies = dependencies' :=
  decodes_report.unique hreports.1 hreports'.1

/-- What is read of a text is what it reports. -/
theorem reports_iff
    {text : String}
    {dependencies : List ReportedDependency} :
    Reports text dependencies ↔
      (reportReader.parse text).toOption.bind dependenciesOf? = some dependencies := by
  constructor
  · rintro ⟨hreport, htrailing⟩
    obtain ⟨value, hnode, hdependencies⟩ := decodes_report.complete hreport
    rw [Reader.parse_eq_ok_iff.mpr ⟨hnode, htrailing⟩]
    exact hdependencies
  · intro hread
    cases hparse : reportReader.parse text with
    | error fault =>
        rw [hparse] at hread
        cases hread
    | ok value =>
        rw [hparse] at hread
        obtain ⟨hnode, htrailing⟩ := Reader.parse_eq_ok_iff.mp hparse
        obtain ⟨dependencies', hdependencies, hreport⟩ := decodes_report.sound hnode
        obtain rfl := Option.some.inj (hdependencies.symm.trans hread)
        exact ⟨hreport, htrailing⟩

/-- The texts with findings are the reports. -/
theorem findings_eq_ok_iff
    {text : String}
    {result : List Vulnerability} :
    findings text = .ok result ↔
      ∃ dependencies, Reports text dependencies ∧ result = findingsOf dependencies := by
  simp only [reports_iff]
  rw [findings]
  cases hparse : reportReader.parse text with
  | error fault =>
      simp [Except.toOption]
  | ok value =>
      obtain ⟨hnode, -⟩ := Reader.parse_eq_ok_iff.mp hparse
      obtain ⟨dependencies, hdependencies, -⟩ := decodes_report.sound hnode
      simp [Except.toOption, hdependencies, eq_comm]

end Reading

/-! ## The finding for a vulnerability -/

/-- What the finding for a vulnerability of a dependency says. -/
structure ReportedVulnerability.Becomes
    (file : String)
    (v : ReportedVulnerability)
    (finding : Vulnerability) : Prop where
  details :
    finding.kind = "Vulnerable Dependency" ∧ finding.file = file ∧ finding.line = none ∧
      finding.source = .dependencyScanner ∧
      finding.recommendation = some ("Upgrade " ++ file ++ " to a release that fixes " ++ v.name)
  /-- The score of the third version, or else that of the second. -/
  newScore : ∀ score, v.newScore = some score → finding.score = some score
  oldScore : v.newScore = none → finding.score = v.oldScore
  /-- A score decides, whatever the label says. -/
  scored : ∀ score, finding.score = some score → finding.severity = .ofScore score
  labelled :
    ∀ label, finding.score = none → v.severity = some label → finding.severity = .ofLabel label
  unknown : finding.score = none → v.severity = none → finding.severity = .medium
  cve : ∀ id, finding.cve = some id ↔ id = v.name ∧ ∃ number, v.name = "CVE-" ++ number
  /-- A description is never blank. -/
  described : Text.isBlankText finding.description = false
  /-- One of the report loses the blanks at its ends and nothing else. -/
  reported :
    ∀ text, v.description = some text → Text.isBlankText text = false →
      Text.Trimmed finding.description ∧
        ∃ before after, text = before ++ finding.description ++ after ∧
          Text.isBlankText before = true ∧ Text.isBlankText after = true
  replaced :
    (∀ text, v.description = some text → Text.isBlankText text = true) →
      finding.description = v.name ++ " affects " ++ file

section Finding

variable (v : ReportedVulnerability) (file : String)

theorem cve?_eq_some_iff
    {id : String} :
    v.cve? = some id ↔ id = v.name ∧ ∃ number, v.name = "CVE-" ++ number := by
  have hprefix : "CVE-".toList.isPrefixOf v.name.toList = true ↔
      ∃ number, v.name = "CVE-" ++ number := by
    rw [List.isPrefixOf_iff_prefix]
    constructor
    · rintro ⟨number, hname⟩
      refine ⟨String.ofList number, String.toList_inj.mp ?_⟩
      simp [← hname]
    · rintro ⟨number, hname⟩
      exact ⟨number.toList, by simp [hname]⟩
  rw [ReportedVulnerability.cve?, ← hprefix]
  split
  · next hcve =>
      constructor
      · intro hid
        exact ⟨(Option.some.inj hid).symm, hcve⟩
      · rintro ⟨rfl, -⟩
        rfl
  · next hcve =>
      constructor
      · intro hid
        cases hid
      · rintro ⟨-, hname⟩
        exact absurd hname hcve

/-- A description of the report that is not blank is used without the blanks at its ends. -/
theorem descriptionFor_of_text
    {text : String}
    (htext : v.description = some text)
    (hblank : Text.isBlankText text = false) :
    v.descriptionFor file = Text.trim text := by
  have hempty : Text.trim text ≠ "" := by
    rw [Ne, Text.trim_eq_empty_iff, hblank]
    simp
  have hkept : ((Text.trim text).isEmpty) = false := by
    rw [Bool.eq_false_iff, Ne, String.isEmpty_iff]
    exact hempty
  rw [ReportedVulnerability.descriptionFor, htext]
  simp [Option.filter, hkept]

theorem descriptionFor_of_blank
    (hblank : ∀ text, v.description = some text → Text.isBlankText text = true) :
    v.descriptionFor file = v.name ++ " affects " ++ file := by
  rw [ReportedVulnerability.descriptionFor]
  cases htext : v.description with
  | none =>
      rfl
  | some text =>
      have hempty : Text.trim text = "" := Text.trim_eq_empty_iff.mpr (hblank text htext)
      simp [Option.filter, hempty]

theorem isBlankText_descriptionFor :
    Text.isBlankText (v.descriptionFor file) = false := by
  by_cases hblank : ∀ text, v.description = some text → Text.isBlankText text = true
  · rw [descriptionFor_of_blank v file hblank, Text.isBlankText, List.all_eq_false]
    exact ⟨'a', by simp, by decide +kernel⟩
  · push Not at hblank
    obtain ⟨text, htext, htrue⟩ := hblank
    have hblank : Text.isBlankText text = false := Bool.eq_false_iff.mpr htrue
    rw [descriptionFor_of_text v file htext hblank, Bool.eq_false_iff]
    exact fun htrim => htrue (Text.isBlankText_of_trim htrim)

/-- The finding for a vulnerability says what it has to. -/
theorem becomes_finding :
    v.Becomes file (v.finding file) where
  details := ⟨rfl, rfl, rfl, rfl, rfl⟩
  newScore score hscore := by
    simp [ReportedVulnerability.finding, ReportedVulnerability.score?, hscore]
  oldScore hnone := by
    simp [ReportedVulnerability.finding, ReportedVulnerability.score?, hnone]
  scored score hscore := by
    change v.score? = some score at hscore
    simp [ReportedVulnerability.finding, ReportedVulnerability.severityOf, hscore]
  labelled label hscore hlabel := by
    change v.score? = none at hscore
    simp [ReportedVulnerability.finding, ReportedVulnerability.severityOf, hscore, hlabel]
  unknown hscore hlabel := by
    change v.score? = none at hscore
    simp [ReportedVulnerability.finding, ReportedVulnerability.severityOf, hscore, hlabel]
  cve id := cve?_eq_some_iff v
  described := isBlankText_descriptionFor v file
  reported text htext hblank := by
    change Text.Trimmed (v.descriptionFor file) ∧
      ∃ before after, text = before ++ v.descriptionFor file ++ after ∧ _
    rw [descriptionFor_of_text v file htext hblank]
    exact ⟨Text.trimmed_trim text, Text.exists_trim text⟩
  replaced hblank := descriptionFor_of_blank v file hblank

end Finding

/-! ## The order of the findings -/

section Order

/-- Every vulnerability with its dependency, in the order of the report. -/
def reportedPairs (dependencies : List ReportedDependency) :
    List (ReportedDependency × ReportedVulnerability) :=
  dependencies.flatMap fun d => d.vulnerabilities.map fun v => (d, v)

/-- The findings for all pairs, in the order of the report. -/
def reportedFindings (dependencies : List ReportedDependency) : List Vulnerability :=
  (reportedPairs dependencies).map fun pair => pair.2.finding pair.1.fileName

/-- Whether a finding may stand in front of another. -/
def worseFirst (a b : Vulnerability) : Bool := decide (b.severity.level ≤ a.severity.level)

theorem worseFirst_trans
    (a b c : Vulnerability)
    (hab : worseFirst a b = true)
    (hbc : worseFirst b c = true) :
    worseFirst a c = true := by
  simp only [worseFirst, decide_eq_true_iff] at *
  exact Nat.le_trans hbc hab

theorem worseFirst_total
    (a b : Vulnerability) :
    (worseFirst a b || worseFirst b a) = true := by
  simpa [worseFirst] using Nat.le_total b.severity.level a.severity.level

variable (dependencies : List ReportedDependency)

theorem findingsOf_eq :
    findingsOf dependencies = (reportedFindings dependencies).mergeSort worseFirst := by
  have hflat : dependencies.flatMap ReportedDependency.findings = reportedFindings dependencies := by
    rw [reportedFindings, reportedPairs, List.map_flatMap]
    apply List.flatMap_congr
    intro d _
    rw [List.map_map]
    rfl
  rw [findingsOf, hflat]
  rfl

theorem findingsOf_perm :
    (findingsOf dependencies).Perm (reportedFindings dependencies) := by
  rw [findingsOf_eq]
  exact List.mergeSort_perm _ _

/-- A worse finding is in front. -/
theorem findingsOf_sorted :
    (findingsOf dependencies).Pairwise fun a b => b.severity.level ≤ a.severity.level := by
  rw [findingsOf_eq]
  have hsorted := List.pairwise_mergeSort worseFirst_trans worseFirst_total
    (reportedFindings dependencies)
  simpa only [worseFirst, decide_eq_true_iff] using hsorted

/-- Findings of one severity are in the order of the report. -/
theorem findingsOf_stable
    (severity : Severity) :
    (findingsOf dependencies).filter (fun finding => finding.severity = severity) =
      (reportedFindings dependencies).filter fun finding => finding.severity = severity := by
  rw [findingsOf_eq, Sorting.filter_mergeSort worseFirst_trans worseFirst_total]
  apply List.mergeSort_of_pairwise
  apply List.pairwise_of_forall_mem_list
  intro a ha b hb
  simp only [List.mem_filter, decide_eq_true_iff] at ha hb
  simp [worseFirst, ha.2, hb.2]

/-- There is one finding for every pair. -/
theorem reportedFindings_become :
    List.Forall₂ (fun pair finding => pair.2.Becomes pair.1.fileName finding)
      (reportedPairs dependencies) (reportedFindings dependencies) := by
  rw [reportedFindings, List.forall₂_map_right_iff]
  exact List.forall₂_same.mpr fun pair _ => becomes_finding pair.2 pair.1.fileName

end Order

/-! ## Reports that do not fit -/

section Misfit

variable {text : String} {list item part : Node}

theorem exists_message
    (hnone : ∀ result, findings text ≠ .ok result) :
    ∃ message, findings text = .error message := by
  cases hfindings : findings text with
  | error message =>
      exact ⟨message, rfl⟩
  | ok result =>
      exact absurd hfindings (hnone result)

/-- Every dependency of a report fits. -/
theorem IsReport.exists_dependency
    {node : Node}
    {dependencies : List ReportedDependency}
    (hreport : IsReport node dependencies)
    (hlist : node.part? reportNames "dependencies" = some list)
    (hitem : item ∈ list.items) :
    ∃ d, IsDependency item d := by
  have hpart := hreport.dependencies
  rw [hlist] at hpart
  exact hpart.exists_of_mem hitem

/-- Every vulnerability of a dependency fits. -/
theorem IsDependency.exists_vulnerability
    {d : ReportedDependency}
    (hdependency : IsDependency item d)
    (hlist : item.part? dependencyNames "vulnerabilities" = some list)
    (hpart : part ∈ list.items) :
    ∃ v, IsVulnerability part v := by
  have hparts := hdependency.vulnerabilities
  rw [hlist] at hparts
  exact hparts.exists_of_mem hpart

/-- A dependency that does not fit leaves no finding of any other. -/
theorem findings_of_misfit
    (hlist : (document text).node.part? reportNames "dependencies" = some list)
    (hitem : item ∈ list.items)
    (hmisfit : ∀ d, ¬ IsDependency item d) :
    ∃ message, findings text = .error message := by
  apply exists_message
  intro result hfindings
  obtain ⟨dependencies, ⟨hreport, -⟩, -⟩ := findings_eq_ok_iff.mp hfindings
  obtain ⟨d, hd⟩ := hreport.exists_dependency hlist hitem
  exact hmisfit d hd

end Misfit

/--
The findings of a report of the dependency scanner.

A text has findings exactly if it is a report, and a report lists its dependencies in one way only.
There is one finding for every vulnerability of every dependency.  They stand from the worst to the
mildest, and those of one severity in the order of the report.  If one dependency does not fit the
schema, or one vulnerability of a dependency, there is a message in place of all findings.
-/
theorem findings_characterised
    (text : String) :
    (∀ dependencies, Reports text dependencies →
      List.Forall₂ (fun pair finding => pair.2.Becomes pair.1.fileName finding)
          (reportedPairs dependencies) (reportedFindings dependencies) ∧
        ∃ result,
          findings text = .ok result ∧
            result.Perm (reportedFindings dependencies) ∧
            result.Pairwise (fun a b => b.severity.level ≤ a.severity.level) ∧
            ∀ severity : Severity,
              result.filter (fun finding => finding.severity = severity) =
                (reportedFindings dependencies).filter fun finding =>
                  finding.severity = severity) ∧
    (∀ dependencies dependencies', Reports text dependencies → Reports text dependencies' →
      dependencies = dependencies') ∧
    ((∀ dependencies, ¬ Reports text dependencies) ↔
      ∃ message, findings text = .error message) ∧
    ∀ dependencies, (document text).node.part? reportNames "dependencies" = some dependencies →
      ∀ item ∈ dependencies.items,
        ((∀ d, ¬ IsDependency item d) → ∃ message, findings text = .error message) ∧
          ∀ vulnerabilities,
            item.part? dependencyNames "vulnerabilities" = some vulnerabilities →
              ∀ part ∈ vulnerabilities.items, (∀ v, ¬ IsVulnerability part v) →
                ∃ message, findings text = .error message := by
  refine ⟨?_, fun _ _ => Reports.unique, ?_, ?_⟩
  · intro dependencies hreports
    exact ⟨reportedFindings_become dependencies, findingsOf dependencies,
      findings_eq_ok_iff.mpr ⟨dependencies, hreports, rfl⟩, findingsOf_perm dependencies,
      findingsOf_sorted dependencies, findingsOf_stable dependencies⟩
  · constructor
    · intro hnone
      apply exists_message
      intro result hfindings
      obtain ⟨dependencies, hreports, -⟩ := findings_eq_ok_iff.mp hfindings
      exact hnone dependencies hreports
    · rintro ⟨message, hmessage⟩ dependencies hreports
      have hfindings := findings_eq_ok_iff.mpr ⟨dependencies, hreports, rfl⟩
      rw [hmessage] at hfindings
      cases hfindings
  · intro dependencies hlist item hitem
    refine ⟨findings_of_misfit hlist hitem, ?_⟩
    intro vulnerabilities hparts part hpart hmisfit
    apply findings_of_misfit hlist hitem
    intro d hd
    obtain ⟨v, hv⟩ := hd.exists_vulnerability hparts hpart
    exact hmisfit v hv

/-- A report with two vulnerabilities in one dependency and none in another; most of its records are
lists. -/
def mixedReport : String :=
  "\x7b\"dependencies\":[[\"a.jar\",[[\"GHSA-1\",\"info\"]," ++
    "[\"CVE-1\",null,\" Remote. \",[1],[10.0]]]],\x7b\"fileName\":\"b.jar\"\x7d]\x7d"

/-- A report with a vulnerability without a name, behind one that fits. -/
def namelessReport : String :=
  "\x7b\"dependencies\":[[\"a.jar\",[[\"CVE-1\"],\x7b\"severity\":\"high\"\x7d]]]\x7d"

/-- The score decides and puts the second vulnerability in front; the one without a name leaves no
finding of the other. -/
theorem mixed_report_findings :
    (∃ result,
      findings mixedReport = .ok result ∧
        result.Pairwise (fun a b => b.severity.level ≤ a.severity.level) ∧
        result.Perm
          [⟨"Vulnerable Dependency", .low, none, "GHSA-1 affects a.jar",
              some "Upgrade a.jar to a release that fixes GHSA-1", "a.jar", .dependencyScanner,
              none, none⟩,
            ⟨"Vulnerable Dependency", .critical, none, "Remote.",
              some "Upgrade a.jar to a release that fixes CVE-1", "a.jar",
              .dependencyScanner, some "CVE-1", some (.num 10)⟩]) ∧
      ∃ message, findings namelessReport = .error message := by
  have hreports : Reports mixedReport
      [⟨"a.jar",
          [⟨"GHSA-1", some "info", none, none, none⟩,
            ⟨"CVE-1", none, some " Remote. ", some (.num 1), some (.num 10)⟩]⟩,
        ⟨"b.jar", []⟩] :=
    reports_iff.mpr (by decide +kernel)
  obtain ⟨hsound, -, -, -⟩ := findings_characterised mixedReport
  obtain ⟨-, -, -, hmisfit⟩ := findings_characterised namelessReport
  obtain ⟨-, result, hresult, hperm, hsorted, -⟩ := hsound _ hreports
  refine ⟨⟨result, hresult, hsorted, ?_⟩, ?_⟩
  · refine hperm.trans (List.Perm.of_eq ?_)
    decide +kernel
  · have hshape : (((document namelessReport).node.part? reportNames "dependencies").any
        fun dependencies => dependencies.items.any fun item =>
          (item.part? dependencyNames "vulnerabilities").any fun vulnerabilities =>
            vulnerabilities.items.any fun part =>
              (part.part? vulnerabilityNames "name").isNone) = true := by
      decide +kernel
    simp only [Option.any_eq_true, List.any_eq_true, Option.isNone_iff_eq_none] at hshape
    obtain ⟨dependencies, hlist, item, hitem, vulnerabilities, hparts, part, hpart, hnameless⟩ :=
      hshape
    refine (hmisfit dependencies hlist item hitem).2 vulnerabilities hparts part hpart ?_
    intro v hv
    have hname := hv.name
    rw [hnameless] at hname
    cases hname

end Dependency
end CodeAudit
