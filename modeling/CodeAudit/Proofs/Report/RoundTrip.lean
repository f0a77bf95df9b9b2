import CodeAudit.Cloud.Report
import CodeAudit.Migration.Plan
import CodeAudit.Proofs.Json.Reading
import CodeAudit.Proofs.Migration.Detection
import CodeAudit.Proofs.Report.RunId
import CodeAudit.Security.Report

/-!
# Saved reports are read back

A report is saved as the text of its value.  Its reader takes this text back to the value, and the
value is decoded to the report: `RoundTrips` says both of one record, and a record does so if the
records in it do.  So there is one statement for each kind of record, in the order in which they are
put together, and the three kinds of reports come last.

What is assumed is what the records themselves do not say: that counts fit 64 bits, that numbers are
finite and given back by the library, and that a breakdown by category has its categories in order.

**Results.**
* `Vulnerability.roundTrips`, `CloudIssue.roundTrips`, `MigrationStep.roundTrips`: findings.
* `SecurityReport.roundTrips`, `MigrationPlan.roundTrips`, `CloudReport.roundTrips`: reports.
* `saved_reports_read_back`: the texts of reports.
-/

namespace CodeAudit

open Json

/-- A reader reads the value of a record back, and the value is decoded to the record. -/
structure RoundTrips
    {α : Type}
    (reader : Reader)
    (encode : α → Value)
    (decode : Value → Option α)
    (a : α) : Prop where
  reads : Reads reader (encode a)
  decodes : decode (encode a) = some a

section Members

variable {name : String} {reader : Reader} {value : Value}

@[simp] theorem takes_required :
    (Member.required name reader).Takes (name, value) ↔ Reads reader value :=
  ⟨fun htakes => htakes.reads, fun hreads => ⟨rfl, hreads⟩⟩

@[simp] theorem takes_possible :
    (Member.possible name reader).Takes (name, value) ↔ Reads (Reader.optional reader) value :=
  ⟨fun htakes => htakes.reads, fun hreads => ⟨rfl, hreads⟩⟩

@[simp] theorem field?_cons
    {α : Type}
    (key : String)
    (members : List (String × Value))
    (decode : Value → Option α) :
    (Value.object ((name, value) :: members)).field? key decode =
      if key = name then decode value else (Value.object members).field? key decode := by
  by_cases hkey : key = name
  · simp [Value.field?, Value.member?, hkey]
  · have hother : (key == name) = false := beq_eq_false_iff_ne.mpr hkey
    rw [if_neg hkey, Value.field?, Value.field?, Value.member?, List.lookup_cons, hother]
    rfl

end Members

section Values

variable {α : Type} {reader : Reader} {encode : α → Value} {decode : Value → Option α}

@[simp] theorem asText?_text
    (content : String) :
    (Value.text content).asText? = some content := by
  rfl

@[simp] theorem asTruth?_truth
    (value : Bool) :
    (Value.truth value).asTruth? = some value := by
  rfl

@[simp] theorem asReal?_real
    (x : Floating) :
    (Value.real x).asReal? = some x := by
  rfl

@[simp] theorem asCount?_ofCount
    (n : Nat) :
    (Value.ofCount n).asCount? = some n := by
  rfl

theorem RoundTrips.ofList
    {as : List α}
    (hitems : ∀ a ∈ as, RoundTrips reader encode decode a) :
    RoundTrips (Reader.list reader) (fun as => .list (as.map encode)) (Value.asListOf? decode)
      as where
  reads := by
    apply Reads.list
    rw [List.forall_mem_map]
    exact fun a ha => (hitems a ha).reads
  decodes := by
    change (as.map encode).mapM decode = some as
    induction as with
    | nil =>
        rfl
    | cons a rest ih =>
        rw [List.forall_mem_cons] at hitems
        rw [List.map_cons, List.mapM_cons, hitems.1.decodes, ih hitems.2]
        rfl

theorem RoundTrips.ofOption
    {given : Option α}
    (hnull : ∀ a, encode a ≠ .null)
    (hgiven : ∀ a, RoundTrips reader encode decode a) :
    RoundTrips (Reader.optional reader) (Value.ofOption encode) (Value.asOption? decode)
      given where
  reads := Reads.ofOption fun a _ => (hgiven a).reads
  decodes := by
    cases given with
    | none =>
        rfl
    | some a =>
        have hdecode : (encode a).asOption? decode = (decode (encode a)).map some := by
          unfold Value.asOption?
          split
          · next heq => exact absurd heq (hnull a)
          · rfl
        rw [Value.ofOption, hdecode, (hgiven a).decodes]
        rfl

theorem roundTrips_text
    (content : String) :
    RoundTrips Reader.text Value.text Value.asText? content :=
  ⟨Reads.text content, rfl⟩

theorem roundTrips_texts
    (texts : List String) :
    RoundTrips (Reader.list Reader.text) Value.ofTexts (Value.asListOf? Value.asText?) texts :=
  RoundTrips.ofList fun content _ => roundTrips_text content

theorem roundTrips_textValue?
    (given : Option String) :
    RoundTrips (Reader.optional Reader.text) textValue? (Value.asOption? Value.asText?) given :=
  RoundTrips.ofOption (by simp) roundTrips_text

theorem roundTrips_countValue?
    (given : Option Nat) :
    RoundTrips (Reader.optional (Reader.count 64)) countValue? (Value.asOption? Value.asCount?)
      given :=
  RoundTrips.ofOption (by simp [Value.ofCount]) fun n => ⟨Reads.count n, rfl⟩

theorem roundTrips_realValue?
    (given : Option Floating) :
    RoundTrips (Reader.optional Reader.real) realValue? (Value.asOption? Value.asReal?) given :=
  RoundTrips.ofOption (by simp) fun x => ⟨Reads.real x, rfl⟩

end Values

section Labels

theorem Severity.roundTrips
    (severity : Severity) :
    RoundTrips reader toValue ofValue? severity where
  reads := Reads.label (by cases severity <;> decide)
  decodes := by cases severity <;> rfl

theorem Priority.roundTrips
    (priority : Priority) :
    RoundTrips reader toValue ofValue? priority where
  reads := Reads.label (by cases priority <;> decide)
  decodes := by cases priority <;> rfl

theorem Source.roundTrips
    (source : Source) :
    RoundTrips reader toValue ofValue? source where
  reads := Reads.label (by cases source <;> decide)
  decodes := by cases source <;> rfl

theorem Provider.roundTrips
    (provider : Provider) :
    RoundTrips reader toValue ofValue? provider where
  reads := Reads.label (by cases provider <;> decide)
  decodes := by cases provider <;> rfl

theorem PackagingMethod.roundTrips
    (method : PackagingMethod) :
    RoundTrips reader toValue ofValue? method where
  reads := Reads.label (by cases method <;> decide)
  decodes := by cases method <;> rfl

theorem Framework.roundTrips
    (framework : Framework) :
    RoundTrips reader toValue ofValue? framework where
  reads := Reads.label (List.mem_map_of_mem framework.mem_all)
  decodes := by cases framework <;> rfl

theorem RunId.roundTrips
    (id : RunId) :
    RoundTrips reader toValue ofValue? id where
  reads := by
    rw [reader, toValue]
    apply Reads.formatted
    rw [ofText?_text, Option.map_some]
  decodes := by
    rw [ofValue?, toValue, asText?_text, Option.bind_some, ofText?_text]

end Labels

section Records

theorem Metadata.roundTrips
    (m : Metadata) :
    RoundTrips reader toValue ofValue? m where
  reads := Reads.record (by decide)
    (by simp [m.runId.roundTrips.reads, (roundTrips_textValue? m.model).reads])
  decodes := by
    simp [ofValue?, toValue, m.runId.roundTrips.decodes, (roundTrips_textValue? m.model).decodes]

theorem Vulnerability.roundTrips
    (v : Vulnerability) :
    RoundTrips reader toValue ofValue? v where
  reads := Reads.record (by decide)
    (by simp [v.severity.roundTrips.reads, v.source.roundTrips.reads,
      (roundTrips_countValue? v.line).reads, (roundTrips_textValue? _).reads,
      (roundTrips_realValue? v.score).reads])
  decodes := by
    simp [ofValue?, toValue, v.severity.roundTrips.decodes, v.source.roundTrips.decodes,
      (roundTrips_countValue? v.line).decodes, (roundTrips_textValue? _).decodes,
      (roundTrips_realValue? v.score).decodes]

theorem CloudIssue.roundTrips
    (issue : CloudIssue) :
    RoundTrips reader toValue ofValue? issue where
  reads := Reads.record (by decide)
    (by simp [issue.severity.roundTrips.reads, (roundTrips_textValue? issue.file).reads,
      (roundTrips_countValue? issue.line).reads])
  decodes := by
    simp [ofValue?, toValue, issue.severity.roundTrips.decodes,
      (roundTrips_textValue? issue.file).decodes, (roundTrips_countValue? issue.line).decodes]

theorem MigrationStep.roundTrips
    (step : MigrationStep) :
    RoundTrips reader toValue ofValue? step where
  reads := Reads.record (by decide) (by simp [step.priority.roundTrips.reads])
  decodes := by simp [ofValue?, toValue, step.priority.roundTrips.decodes]

theorem SeverityCounts.roundTrips
    (counts : SeverityCounts) :
    RoundTrips reader toValue ofValue? counts where
  reads := Reads.record (by decide) (by simp)
  decodes := by simp [ofValue?, toValue]

theorem FileStructure.roundTrips
    (s : FileStructure) :
    RoundTrips reader toValue ofValue? s where
  reads := Reads.record (by decide) (by simp)
  decodes := by simp [ofValue?, toValue]

theorem Detection.roundTrips
    (d : Detection) :
    RoundTrips reader toValue ofValue? d where
  reads := Reads.record (by decide)
    (by simp [d.framework.roundTrips.reads, (roundTrips_texts d.files).reads])
  decodes := by
    simp [ofValue?, toValue, d.framework.roundTrips.decodes, (roundTrips_texts d.files).decodes]

theorem Complexity.roundTrips
    (c : Complexity) :
    RoundTrips reader toValue ofValue? c := by
  have hfiles := RoundTrips.ofList fun s (_ : s ∈ c.mostComplex) => s.roundTrips
  exact {
    reads := Reads.record (by decide) (by simp [hfiles.reads])
    decodes := by simp [ofValue?, toValue, hfiles.decodes] }

theorem DependencyOutcome.roundTrips
    (outcome : DependencyOutcome) :
    RoundTrips reader toValue ofValue? outcome := by
  have hfound := RoundTrips.ofList fun v (_ : v ∈ outcome.vulnerabilities) => v.roundTrips
  exact {
    reads := Reads.record (by decide)
      (by simp [hfound.reads, (roundTrips_textValue? outcome.tool).reads,
        (roundTrips_texts outcome.errors).reads])
    decodes := by
      simp [ofValue?, toValue, hfound.decodes, (roundTrips_textValue? outcome.tool).decodes,
        (roundTrips_texts outcome.errors).decodes] }

theorem FileSecurityReport.roundTrips
    (report : FileSecurityReport) :
    RoundTrips reader toValue ofValue? report := by
  have hfound := RoundTrips.ofList fun v (_ : v ∈ report.vulnerabilities) => v.roundTrips
  exact {
    reads := Reads.record (by decide)
      (by simp [hfound.reads, report.severity.roundTrips.reads,
        (roundTrips_textValue? _).reads, (roundTrips_realValue? _).reads])
    decodes := by
      simp [ofValue?, toValue, hfound.decodes, report.severity.roundTrips.decodes,
        (roundTrips_textValue? _).decodes, (roundTrips_realValue? _).decodes] }

theorem SecuritySummary.roundTrips
    (summary : SecuritySummary) :
    RoundTrips reader toValue ofValue? summary := by
  have hhighest : RoundTrips _ _ _ summary.highestSeverity :=
    RoundTrips.ofOption (by simp [Severity.toValue]) Severity.roundTrips
  exact {
    reads := Reads.record (by decide)
      (by simp [hhighest.reads, summary.severityCounts.roundTrips.reads])
    decodes := by
      simp [ofValue?, toValue, hhighest.decodes, summary.severityCounts.roundTrips.decodes] }

end Records

section Reports

theorem SecurityReport.roundTrips
    (report : SecurityReport) :
    RoundTrips reader toValue ofValue? report := by
  have hfiles := RoundTrips.ofList fun file (_ : file ∈ report.files) => file.roundTrips
  have hscan : RoundTrips _ _ _ report.dependencyScan :=
    RoundTrips.ofOption (by simp [DependencyOutcome.toValue]) DependencyOutcome.roundTrips
  exact {
    reads := Reads.record (by decide)
      (by simp [hfiles.reads, hscan.reads, report.metadata.roundTrips.reads,
        report.summary.roundTrips.reads])
    decodes := by
      simp [ofValue?, toValue, hfiles.decodes, hscan.decodes, report.metadata.roundTrips.decodes,
        report.summary.roundTrips.decodes] }

theorem roundTrips_packaging
    (packaging : Option PackagingMethod) :
    RoundTrips (Reader.optional PackagingMethod.reader) (Value.ofOption PackagingMethod.toValue)
      (Value.asOption? PackagingMethod.ofValue?) packaging :=
  RoundTrips.ofOption (by simp [PackagingMethod.toValue]) PackagingMethod.roundTrips

theorem MigrationPlan.roundTrips
    (plan : MigrationPlan) :
    RoundTrips reader toValue ofValue? plan := by
  have hdetected := RoundTrips.ofList fun d (_ : d ∈ plan.detectedFrameworks) => d.roundTrips
  have hsteps := RoundTrips.ofList fun step (_ : step ∈ plan.steps) => step.roundTrips
  exact {
    reads := Reads.record (by decide)
      (by simp [hdetected.reads, hsteps.reads, plan.metadata.roundTrips.reads,
        plan.complexity.roundTrips.reads, (roundTrips_texts plan.risks).reads,
        (roundTrips_packaging plan.packaging).reads])
    decodes := by
      simp [ofValue?, toValue, hdetected.decodes, hsteps.decodes,
        plan.metadata.roundTrips.decodes, plan.complexity.roundTrips.decodes,
        (roundTrips_texts plan.risks).decodes, (roundTrips_packaging plan.packaging).decodes] }

/-- A breakdown with its categories in order, as a dictionary. -/
theorem roundTrips_breakdown
    {counts : List (String × Nat)}
    (hordered : (counts.map Prod.fst).Pairwise (· < ·)) :
    RoundTrips (Reader.dictionary (Reader.count 64))
      (fun counts => .object (counts.map fun (category, count) => (category, .ofCount count)))
      CloudReport.countsOfValue? counts where
  reads := by
    apply Reads.dictionary
    · rw [List.forall_mem_map]
      exact fun entry _ => Reads.count entry.2
    · rwa [List.map_map]
  decodes := by
    change (counts.map _).mapM _ = some counts
    induction counts with
    | nil =>
        rfl
    | cons entry rest ih =>
        rw [List.map_cons, List.pairwise_cons] at hordered
        rw [List.map_cons, List.mapM_cons, ih hordered.2]
        rfl

theorem CloudReport.roundTrips
    {report : CloudReport}
    (hordered : (report.categoryBreakdown.map Prod.fst).Pairwise (· < ·)) :
    RoundTrips reader toValue ofValue? report := by
  have hissues := RoundTrips.ofList fun issue (_ : issue ∈ report.issues) => issue.roundTrips
  have hbreakdown := roundTrips_breakdown hordered
  exact {
    reads := Reads.record (by decide)
      (by simp [hissues.reads, hbreakdown.reads, report.metadata.roundTrips.reads,
        report.provider.roundTrips.reads, report.severityCounts.roundTrips.reads,
        (roundTrips_realValue? report.modelScore).reads,
        (roundTrips_texts report.recommendations).reads,
        (roundTrips_packaging report.packaging).reads])
    decodes := by
      simp [ofValue?, toValue, hissues.decodes, hbreakdown.decodes,
        report.metadata.roundTrips.decodes, report.provider.roundTrips.decodes,
        report.severityCounts.roundTrips.decodes, (roundTrips_realValue? report.modelScore).decodes,
        (roundTrips_texts report.recommendations).decodes,
        (roundTrips_packaging report.packaging).decodes] }

end Reports

section Saved

/-- The text that is saved of a record is read as its value, which is decoded to the record. -/
theorem RoundTrips.parse_pretty
    {α : Type}
    {reader : Reader}
    {encode : α → Value}
    {decode : Value → Option α}
    {a : α}
    (htrips : RoundTrips reader encode decode a)
    (hstorable : (encode a).Storable) :
    reader.parse (encode a).pretty = .ok (encode a) ∧ decode (encode a) = some a :=
  ⟨htrips.reads.parse_pretty hstorable, htrips.decodes⟩

/--
Every report whose numbers can be stored is given back by the text that `Report.save` writes of it.
A breakdown by category is a map, so its categories are in order.
-/
theorem saved_reports_read_back :
    (∀ report : SecurityReport, report.toValue.Storable →
      SecurityReport.reader.parse report.toValue.pretty = .ok report.toValue ∧
        SecurityReport.ofValue? report.toValue = some report) ∧
    (∀ plan : MigrationPlan, plan.toValue.Storable →
      MigrationPlan.reader.parse plan.toValue.pretty = .ok plan.toValue ∧
        MigrationPlan.ofValue? plan.toValue = some plan) ∧
    ∀ report : CloudReport, report.toValue.Storable →
      (report.categoryBreakdown.map Prod.fst).Pairwise (· < ·) →
        CloudReport.reader.parse report.toValue.pretty = .ok report.toValue ∧
          CloudReport.ofValue? report.toValue = some report := by
  refine ⟨fun report hstorable => ?_, fun plan hstorable => ?_,
    fun report hstorable hordered => ?_⟩
  · exact report.roundTrips.parse_pretty hstorable
  · exact plan.roundTrips.parse_pretty hstorable
  · exact (CloudReport.roundTrips hordered).parse_pretty hstorable

/-- A text with quotation marks, backslashes, control characters and characters of all lengths. -/
def awkwardText : String := "\"\\/\x08\n\x00\x1f\x7fé\u2028€😀"

/-- Numbers whose texts are read back: zeros, whole ones and rounded ones. -/
def awkwardNumbers : List Floating :=
  [.negativeZero, 0, 10, .ofRat (1 / 3), .ofRat (49 / 5), .num (2 ^ 60)]

theorem awkwardNumbers_read_back :
    ∀ x ∈ awkwardNumbers, x.isFinite = true ∧ ReadsBack x := by
  decide +kernel

def awkwardMetadata : Metadata :=
  ⟨⟨0xdeadbeef⟩, awkwardText, "", awkwardText, toolVersion, some awkwardText⟩

def awkwardFinding : Vulnerability :=
  ⟨awkwardText, .critical, some (2 ^ 64 - 1), "", some awkwardText, awkwardText,
    .dependencyScanner, none, some (.ofRat (49 / 5))⟩

def awkwardSecurityReport : SecurityReport :=
  ⟨awkwardMetadata, ⟨1, 0, 1, ⟨1, 0, 0, 0⟩, 10, some .critical⟩,
    [⟨awkwardText, none, [awkwardFinding], .negativeZero, some (.ofRat (1 / 3)), 10, .low, some ""⟩],
    some ⟨none, [awkwardFinding], [awkwardText]⟩⟩

def awkwardPlan : MigrationPlan :=
  ⟨awkwardMetadata, awkwardText, [⟨.jQuery, "", 7, [awkwardText]⟩],
    ⟨1, 2, 3, 4, 5, 6, .ofRat (1 / 3), [⟨awkwardText, "java", 1, 2, 3, 4, 5⟩]⟩, awkwardText,
    [⟨"", awkwardText, .high, awkwardText, ""⟩], [awkwardText], .num (2 ^ 60), true, some .manual⟩

def awkwardCloudReport : CloudReport :=
  ⟨awkwardMetadata, .gcp, 10, 0, none, awkwardText, "",
    [⟨awkwardText, .medium, "", awkwardText, none, some 1⟩], ⟨0, 0, 1, 0⟩,
    [("", 1), (awkwardText, 2)], [], false, none⟩

/-- The numbers of a value can be stored if they are among some that are read back. -/
theorem storable_of_awkward
    {value : Value}
    (hcounts : ∀ n, Value.integer n ∈ value.leaves → n < 2 ^ 64)
    (hreals : ∀ x, Value.real x ∈ value.leaves → x ∈ awkwardNumbers) :
    value.Storable where
  counts := hcounts
  finite x hx := (awkwardNumbers_read_back x (hreals x hx)).1
  library x hx _ := (awkwardNumbers_read_back x (hreals x hx)).2

attribute [local simp] Metadata.toValue SecuritySummary.toValue SeverityCounts.toValue
  FileSecurityReport.toValue Vulnerability.toValue DependencyOutcome.toValue RunId.toValue
  Severity.toValue Source.toValue Value.ofOption textValue? countValue? realValue? Value.ofCount
  Value.ofTexts Value.leaves Value.itemLeaves Value.memberLeaves awkwardMetadata awkwardFinding
  Detection.toValue Framework.toValue Complexity.toValue FileStructure.toValue MigrationStep.toValue
  Priority.toValue PackagingMethod.toValue Provider.toValue CloudIssue.toValue

theorem awkward_reports_read_back :
    (SecurityReport.reader.parse awkwardSecurityReport.toValue.pretty =
        .ok awkwardSecurityReport.toValue ∧
      SecurityReport.ofValue? awkwardSecurityReport.toValue = some awkwardSecurityReport) ∧
    (MigrationPlan.reader.parse awkwardPlan.toValue.pretty = .ok awkwardPlan.toValue ∧
      MigrationPlan.ofValue? awkwardPlan.toValue = some awkwardPlan) ∧
    CloudReport.reader.parse awkwardCloudReport.toValue.pretty =
        .ok awkwardCloudReport.toValue ∧
      CloudReport.ofValue? awkwardCloudReport.toValue = some awkwardCloudReport := by
  have hsecurity : awkwardSecurityReport.toValue.Storable := by
    apply storable_of_awkward
    · intro n hn
      simp [awkwardSecurityReport, SecurityReport.toValue] at hn
      omega
    · intro x hx
      simp [awkwardSecurityReport, SecurityReport.toValue] at hx
      rcases hx with rfl | rfl | rfl | rfl | rfl | rfl <;> simp [awkwardNumbers]
  have hplan : awkwardPlan.toValue.Storable := by
    apply storable_of_awkward
    · intro n hn
      simp [awkwardPlan, MigrationPlan.toValue] at hn
      omega
    · intro x hx
      simp [awkwardPlan, MigrationPlan.toValue] at hx
      rcases hx with rfl | rfl <;> simp [awkwardNumbers]
  have hcloud : awkwardCloudReport.toValue.Storable := by
    apply storable_of_awkward
    · intro n hn
      simp [awkwardCloudReport, CloudReport.toValue] at hn
      omega
    · intro x hx
      simp [awkwardCloudReport, CloudReport.toValue] at hx
      rcases hx with rfl | rfl <;> simp [awkwardNumbers]
  have hordered : (awkwardCloudReport.categoryBreakdown.map Prod.fst).Pairwise (· < ·) := by
    decide
  obtain ⟨hsecurities, hplans, hclouds⟩ := saved_reports_read_back
  exact ⟨hsecurities _ hsecurity, hplans _ hplan, hclouds _ hcloud hordered⟩

end Saved

end CodeAudit
