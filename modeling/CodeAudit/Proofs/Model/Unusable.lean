import CodeAudit.Cloud.Assess
import CodeAudit.Migration.Analyze
import CodeAudit.Proofs.Security.Alignment

/-!
# A model without usable answers is no model

A model may fail, or answer with a text from which no record of the expected kind can be read.  Each
pipeline asks in a place of its own and merges the record with its static results in a way of its
own, but each of them reads the answer before it looks at it.  So what is shown here of one question
carries over: an unusable answer leaves the three pipelines where they are without a model.

**Results.**
* `ask_bind_of_unusable`: one question to a model without usable answers.
* `ask_bind_eq_some_iff`: what is read from a question, whatever the model.
* `scanFrom_eq_of_silent`: scans without a review agree, whatever was said before.
* `plan_without_outline`, `report_without_assessment`: what a plan and a report hold then.
* `unusable_model_is_no_model`: the three pipelines.
-/

namespace CodeAudit

/-- Whatever a model is asked, it fails, or nothing can be read from its answer. -/
def Client.Unusable
    {α : Type}
    (client : Client)
    (read? : String → Option α) : Prop :=
  ∀ earlier prompt answer,
    client.answer earlier prompt = .ok answer → read? answer = none

/-- Nothing is read from an answer of a model without usable answers. -/
theorem ask_bind_of_unusable
    {α : Type}
    {client : Client}
    {read? : String → Option α}
    (hunusable : client.Unusable read?)
    (earlier : List Prompt)
    (prompt : Prompt) :
    (ask (some client) earlier prompt).1.bind read? = none := by
  cases hanswer : client.answer earlier prompt with
  | error message =>
      simp [ask, hanswer, Except.toOption]
  | ok answer =>
      have hread : read? answer = none := hunusable earlier prompt answer hanswer
      simp [ask, hanswer, Except.toOption, hread]

/-- What is read from a question is read from an answer that some model gave to it. -/
theorem ask_bind_eq_some_iff
    {α : Type}
    {client : Option Client}
    {read? : String → Option α}
    {earlier : List Prompt}
    {prompt : Prompt}
    {said : α} :
    (ask client earlier prompt).1.bind read? = some said ↔
      ∃ model answer, client = some model ∧
        model.answer earlier prompt = .ok answer ∧ read? answer = some said := by
  cases client with
  | none =>
      simp [ask]
  | some model =>
      cases hanswer : model.answer earlier prompt with
      | error message =>
          simp [ask, hanswer, Except.toOption]
      | ok answer =>
          simp [ask, hanswer, Except.toOption]

namespace Security

/-- A scanner that gets no review, whichever file it shows to its model. -/
def Scanner.Silent (scanner : Scanner) : Prop :=
  ∀ earlier file content, (review scanner earlier file content).1 = none

theorem silent_without_client
    (limit : Nat) :
    Scanner.Silent ⟨none, limit⟩ := by
  intro earlier file content
  cases hreviewed : isReviewed file with
  | false =>
      rw [review_of_not_reviewed _ _ _ hreviewed]
  | true =>
      simp [review, hreviewed, ask]

theorem silent_of_unusable
    {client : Client}
    (hunusable : client.Unusable Review.ofAnswer?)
    (limit : Nat) :
    Scanner.Silent ⟨some client, limit⟩ := by
  intro earlier file content
  cases hreviewed : isReviewed file with
  | false =>
      rw [review_of_not_reviewed _ _ _ hreviewed]
  | true =>
      simp only [review, hreviewed, if_true]
      exact ask_bind_of_unusable hunusable earlier _

section Silent

variable (read : ReadFile) (total : Nat)

/-- If the review of a file does not depend on the conversation, the report of the file does not. -/
theorem scanFrom_reports_eq_map
    {scanner : Scanner}
    {given : FileRecord → String → Option Review}
    (hgiven : ∀ earlier file content,
      (review scanner earlier file content).1 = given file content)
    (position : Nat)
    (earlier : List Prompt)
    (files : List FileRecord) :
    (scanFrom scanner read total position earlier files).reports =
      (readableFiles read files).map fun source =>
        fileReport source.1 source.2 (given source.1 source.2) := by
  induction files generalizing position earlier with
  | nil =>
      rfl
  | cons file rest ih =>
      cases hread : read file with
      | none =>
          rw [scanFrom_cons_unreadable _ _ _ _ _ hread,
            readableFiles_cons_unreadable read hread]
          exact ih (position + 1) earlier
      | some content =>
          rw [scanFrom_cons_readable _ _ _ _ _ hread,
            readableFiles_cons_readable read hread]
          simp [hgiven earlier file content, ih]

/-- A silent scan makes the reports from the heuristic findings alone. -/
theorem scanFrom_reports_of_silent
    {scanner : Scanner}
    (hsilent : scanner.Silent)
    (position : Nat)
    (earlier : List Prompt)
    (files : List FileRecord) :
    (scanFrom scanner read total position earlier files).reports =
      (readableFiles read files).map fun source => fileReport source.1 source.2 none :=
  scanFrom_reports_eq_map read total hsilent position earlier files

/--
Two silent scans report, skip and show the same.  Their conversations may differ from the beginning:
one of the models is asked and the other is not.
-/
theorem scanFrom_eq_of_silent
    {scanner other : Scanner}
    (hsilent : scanner.Silent)
    (hother : other.Silent)
    (position : Nat)
    (earlier earlier' : List Prompt)
    (files : List FileRecord) :
    let first := scanFrom scanner read total position earlier files
    let second := scanFrom other read total position earlier' files
    first.reports = second.reports ∧
      first.skipped = second.skipped ∧
      first.console = second.console := by
  intro first second
  have hreports : first.reports = second.reports := by
    rw [scanFrom_reports_of_silent read total hsilent,
      scanFrom_reports_of_silent read total hother]
  have hskipped : first.skipped = second.skipped := by
    rw [scanFrom_skipped, scanFrom_skipped]
  refine ⟨hreports, hskipped, ?_⟩
  clear hreports hskipped
  induction files generalizing position earlier earlier' with
  | nil =>
      rfl
  | cons file rest ih =>
      cases hread : read file with
      | none =>
          simp only [first, second, scanFrom_cons_unreadable _ _ _ _ _ hread]
          rw [ih]
      | some content =>
          simp only [first, second, scanFrom_cons_readable _ _ _ _ _ hread]
          rw [hsilent, hother, ih]

end Silent

/-- The report of a file without a review carries nothing of a model. -/
theorem fileReport_without_review
    (file : FileRecord)
    (content : String) :
    let report := fileReport file content none
    report.vulnerabilities = heuristicFindings file.relativePath content ∧
      report.modelScore = none ∧
      report.modelSummary = none ∧
      report.riskScore = report.heuristicScore := by
  simp [fileReport]

end Security

namespace Migration

theorem outline_without_client
    (earlier : List Prompt)
    (target : String)
    (detections : List Detection)
    (complexity : Complexity)
    (package : Option Package) :
    (outline none earlier target detections complexity package).1 = none := by
  cases package <;> rfl

theorem outline_of_unusable
    {client : Client}
    (hunusable : client.Unusable Outline.ofAnswer?)
    (earlier : List Prompt)
    (target : String)
    (detections : List Detection)
    (complexity : Complexity)
    (package : Option Package) :
    (outline (some client) earlier target detections complexity package).1 = none := by
  cases package with
  | none =>
      rfl
  | some package =>
      exact ask_bind_of_unusable hunusable earlier _

/-- A plan without an outline has the default texts and the static steps and weeks. -/
theorem plan_without_outline
    (metadata : Metadata)
    (target : String)
    (detections : List Detection)
    (complexity : Complexity)
    (packaging : Option PackagingMethod) :
    let planned := plan metadata target detections complexity packaging none
    planned.modelUsed = false ∧
      planned.summary = Outline.default.summary ∧
      planned.risks = Outline.default.risks ∧
      planned.estimatedWeeks = heuristicWeeks complexity detections ∧
      planned.steps =
        (heuristicSteps detections target).mergeSort fun a b =>
          decide (a.priority.rank ≤ b.priority.rank) := by
  have hsteps : Outline.default.steps.map PlannedStep.toStep = [] := rfl
  refine ⟨rfl, ?_, rfl, rfl, ?_⟩
  · simp only [plan, Option.getD_none, ite_self]
  · simp only [plan, Option.getD_none, hsteps, List.append_nil]

/-- If the model gives no outline, the plan is made of the static results. -/
theorem analyze_without_outline
    {client : Option Client}
    {earlier : List Prompt}
    (hsilent : ∀ target detections complexity package,
      (outline client earlier target detections complexity package).1 = none)
    (read : ReadFile)
    (metadata : Metadata)
    (files : List FileRecord)
    (target : String)
    (package : Option Package) :
    let sources := readableSources read files
    (analyze client read earlier metadata files target package).result =
      plan metadata target
        (Detection.all (sources.map fun (file, content) => (file.relativePath, content)))
        (Complexity.of (sources.filterMap fun (file, content) => structureOf? file content))
        (package.map Package.method) none := by
  intro sources
  simp only [analyze, hsilent, sources]

end Migration

namespace Cloud

theorem assessment_without_client
    (earlier : List Prompt)
    (provider : Provider)
    (issues : List CloudIssue)
    (package : Option Package) :
    (assessment none earlier provider issues package).1 = none := by
  cases package <;> rfl

theorem assessment_of_unusable
    {client : Client}
    (hunusable : client.Unusable Assessment.ofAnswer?)
    (earlier : List Prompt)
    (provider : Provider)
    (issues : List CloudIssue)
    (package : Option Package) :
    (assessment (some client) earlier provider issues package).1 = none := by
  cases package with
  | none =>
      rfl
  | some package =>
      exact ask_bind_of_unusable hunusable earlier _

/-- A report without an assessment has the default summary and the static issues and score. -/
theorem report_without_assessment
    (metadata : Metadata)
    (provider : Provider)
    (issues : List CloudIssue)
    (packaging : Option PackagingMethod) :
    let reported := report metadata provider issues packaging none
    reported.modelUsed = false ∧
      reported.modelScore = none ∧
      reported.readinessScore = heuristicScore issues ∧
      reported.heuristicScore = heuristicScore issues ∧
      reported.summary = Assessment.default.summary ∧
      reported.issues = issues ∧
      reported.recommendations = serviceAdvice provider (categories issues) := by
  have hissues : Assessment.default.issues.map AssessedIssue.toIssue = [] := rfl
  have hrecommendations : Assessment.default.recommendations = [] := rfl
  refine ⟨rfl, rfl, rfl, rfl, ?_, ?_, ?_⟩
  · simp only [report, Option.getD_none, ite_self]
  · simp only [report, Option.getD_none, hissues, List.append_nil]
  · simp only [report, Option.getD_none, hissues, hrecommendations, List.append_nil]

/-- If the model gives no assessment, the report is made of the static issues. -/
theorem assess_without_assessment
    {client : Option Client}
    {earlier : List Prompt}
    (hsilent : ∀ provider issues package,
      (assessment client earlier provider issues package).1 = none)
    (read : ReadFile)
    (metadata : Metadata)
    (files : List FileRecord)
    (provider : Provider)
    (package : Option Package) :
    (assess client read earlier metadata files provider package).result =
      report metadata provider (staticIssues (readableSources read files))
        (package.map Package.method) none := by
  simp only [assess, hsilent]

end Cloud

/--
A model that fails is the same as no model.

If no answer of a model can be read as a review, the scan reports, skips and shows what it does
without a model, and each report rests on the heuristic findings alone.  If none can be read as an
outline or as an assessment, the plan or the report is the one made without a model, with the
default texts and the static scores and estimates.  Nothing of an answer is in any of them, however
much of it is well formed.
-/
theorem unusable_model_is_no_model
    (client : Client)
    (read : ReadFile)
    (earlier : List Prompt)
    (files : List FileRecord)
    (metadata : Metadata)
    (package : Option Package) :
    (client.Unusable Security.Review.ofAnswer? → ∀ limit,
      let failed := Security.scan ⟨some client, limit⟩ read earlier files
      let without := Security.scan ⟨none, limit⟩ read earlier files
      failed.reports = without.reports ∧
        failed.skipped = without.skipped ∧
        failed.console = without.console ∧
        ∀ report ∈ failed.reports,
          report.modelScore = none ∧
            report.modelSummary = none ∧
            report.riskScore = report.heuristicScore ∧
            ∃ source ∈ Security.readableFiles read files,
              report.vulnerabilities =
                Security.heuristicFindings source.1.relativePath source.2) ∧
    (client.Unusable Migration.Outline.ofAnswer? → ∀ target,
      let planned :=
        (Migration.analyze (some client) read earlier metadata files target package).result
      planned =
          (Migration.analyze none read earlier metadata files target package).result ∧
        planned.modelUsed = false ∧
        planned.summary = Migration.Outline.default.summary ∧
        planned.risks = Migration.Outline.default.risks ∧
        planned.estimatedWeeks =
          Migration.heuristicWeeks planned.complexity planned.detectedFrameworks ∧
        planned.steps =
          (Migration.heuristicSteps planned.detectedFrameworks target).mergeSort
            fun a b => decide (a.priority.rank ≤ b.priority.rank)) ∧
    (client.Unusable Cloud.Assessment.ofAnswer? → ∀ provider,
      let issues := Cloud.staticIssues (Cloud.readableSources read files)
      let reported :=
        (Cloud.assess (some client) read earlier metadata files provider package).result
      reported =
          (Cloud.assess none read earlier metadata files provider package).result ∧
        reported.modelUsed = false ∧
        reported.modelScore = none ∧
        reported.readinessScore = Cloud.heuristicScore issues ∧
        reported.heuristicScore = Cloud.heuristicScore issues ∧
        reported.summary = Cloud.Assessment.default.summary ∧
        reported.issues = issues ∧
        reported.recommendations =
          Cloud.serviceAdvice provider (Cloud.categories issues)) := by
  refine ⟨?_, ?_, ?_⟩
  · intro hunusable limit failed without
    have hsilent := Security.silent_of_unusable hunusable limit
    have hwithout := Security.silent_without_client limit
    obtain ⟨hreports, hskipped, hconsole⟩ :=
      Security.scanFrom_eq_of_silent read files.length hsilent hwithout 1 earlier earlier files
    refine ⟨hreports, hskipped, hconsole, ?_⟩
    intro report hreport
    have hstatic : failed.reports = _ :=
      Security.scanFrom_reports_of_silent read files.length hsilent 1 earlier files
    rw [hstatic, List.mem_map] at hreport
    obtain ⟨source, hsource, rfl⟩ := hreport
    obtain ⟨hfindings, hscore, hsummary, hrisk⟩ :=
      Security.fileReport_without_review source.1 source.2
    exact ⟨hscore, hsummary, hrisk, source, hsource, hfindings⟩
  · intro hunusable target planned
    have hplanned : planned = _ :=
      Migration.analyze_without_outline (Migration.outline_of_unusable hunusable earlier)
        read metadata files target package
    have hwithout :=
      Migration.analyze_without_outline (Migration.outline_without_client earlier)
        read metadata files target package
    refine ⟨hplanned.trans hwithout.symm, ?_⟩
    rw [hplanned]
    exact Migration.plan_without_outline metadata target _ _ _
  · intro hunusable provider issues reported
    have hreported : reported = _ :=
      Cloud.assess_without_assessment (Cloud.assessment_of_unusable hunusable earlier)
        read metadata files provider package
    have hwithout :=
      Cloud.assess_without_assessment (Cloud.assessment_without_client earlier)
        read metadata files provider package
    refine ⟨hreported.trans hwithout.symm, ?_⟩
    rw [hreported]
    exact Cloud.report_without_assessment metadata provider issues _

/-- An answer with scores and an estimate of the right kind, and a summary of the wrong one. -/
def misshapenAnswer : String :=
  "Sure: \x7b\"risk_score\": 10, \"readiness_score\": 1, \"estimated_weeks\": 99, \"summary\": 5\x7d"

/-- A model that always gives this answer. -/
def misshapenClient : Client :=
  ⟨"model", fun _ _ => .ok misshapenAnswer⟩

/-- The answer is unusable in all three pipelines, and the scores in it are used in none. -/
theorem misshapen_client_is_no_model :
    let read : ReadFile := fun _ => some "result = eval(text)"
    let files : List FileRecord := [⟨"p/a.py", "a.py", 19, some "py", some "python"⟩]
    let package : Package := ⟨"result = eval(text)", .manual, false⟩
    misshapenClient.Unusable Security.Review.ofAnswer? ∧
      misshapenClient.Unusable Migration.Outline.ofAnswer? ∧
      misshapenClient.Unusable Cloud.Assessment.ofAnswer? ∧
      (Security.scan ⟨some misshapenClient, 100⟩ read [] files).reports =
        (Security.scan ⟨none, 100⟩ read [] files).reports ∧
      (Migration.analyze (some misshapenClient) read [] default files "Quarkus" package).result =
        (Migration.analyze none read [] default files "Quarkus" package).result ∧
      (Cloud.assess (some misshapenClient) read [] default files .aws package).result =
        (Cloud.assess none read [] default files .aws package).result := by
  intro read files package
  have hreview : misshapenClient.Unusable Security.Review.ofAnswer? := by
    rintro earlier prompt answer ⟨⟩
    decide +kernel
  have houtline : misshapenClient.Unusable Migration.Outline.ofAnswer? := by
    rintro earlier prompt answer ⟨⟩
    decide +kernel
  have hassessment : misshapenClient.Unusable Cloud.Assessment.ofAnswer? := by
    rintro earlier prompt answer ⟨⟩
    decide +kernel
  obtain ⟨hscan, hanalyze, hassess⟩ :=
    unusable_model_is_no_model misshapenClient read [] files default (some package)
  exact ⟨hreview, houtline, hassessment, (hscan hreview 100).1,
    (hanalyze houtline "Quarkus").1, (hassess hassessment .aws).1⟩

end CodeAudit
