import CodeAudit.Security.Scan
import Mathlib.Data.List.Basic

/-!
# Answers reach the files they were given for

A scan shows some of the readable files to the model and takes the answers of a script one after
another.  Files that cannot be read and files that are not reviewed stand between those that are
shown, so an answer is found by counting the reviewed files in front of a file, not by the position
of the file.

The invariant of the scan is that the conversation has one prompt for each file that was shown so
far; the length of the conversation is the place of the next answer in the script.

**Results.**
* `scanFrom_reports`: the reports, position by position, for a scan that goes on from any
  conversation.
* `scanFrom_prompts`: the prompts, which are those of the reviewed files in order.
* `scan_script_aligned`: both for a whole scan, with what follows for two scripts and for a file
  that cannot be read.
-/

namespace CodeAudit
namespace Security

/-- The files that can be read, each with its content. -/
def readableFiles
    (read : ReadFile)
    (files : List FileRecord) :
    List (FileRecord × String) :=
  files.filterMap fun file => (read file).map fun content => (file, content)

/-- How many of the readable files in front of a position are reviewed. -/
def reviewedBefore
    (readable : List (FileRecord × String))
    (position : Nat) : Nat :=
  (readable.take position).countP fun source => isReviewed source.1

/-- The readable file at a position is reviewed, after `turn` others. -/
def IsTurn
    (readable : List (FileRecord × String))
    (turn position : Nat) : Prop :=
  ∃ source, readable[position]? = some source ∧
    isReviewed source.1 = true ∧ reviewedBefore readable position = turn

/-- The prompt about a readable file. -/
def promptFor
    (limit : Nat)
    (source : FileRecord × String) : Prompt :=
  reviewPrompt source.1 source.2
    (heuristicFindings source.1.relativePath source.2) limit

/-- The review in an answer of a script, if there is an answer and it can be used. -/
def scriptedReview
    (answers : List (Except String String))
    (call : Nat) : Option Review :=
  (answers[call]?.bind Except.toOption).bind Review.ofAnswer?

/-- The report of a readable file whose answer, if it is reviewed, has this place in the script. -/
def scriptedReport
    (answers : List (Except String String))
    (call : Nat)
    (source : FileRecord × String) : FileSecurityReport :=
  fileReport source.1 source.2
    (if isReviewed source.1 then scriptedReview answers call else none)

/-- A scanner whose model answers from a script. -/
def scriptedScanner
    (description : String)
    (answers : List (Except String String))
    (limit : Nat) : Scanner :=
  ⟨some (Client.scripted description answers), limit⟩

section ReadableFiles

variable (read : ReadFile)

@[simp] theorem readableFiles_nil :
    readableFiles read [] = [] := by
  rfl

theorem readableFiles_cons_unreadable
    {file : FileRecord}
    (hread : read file = none)
    (rest : List FileRecord) :
    readableFiles read (file :: rest) = readableFiles read rest := by
  simp [readableFiles, hread]

theorem readableFiles_cons_readable
    {file : FileRecord} {content : String}
    (hread : read file = some content)
    (rest : List FileRecord) :
    readableFiles read (file :: rest) =
      (file, content) :: readableFiles read rest := by
  simp [readableFiles, hread]

theorem readableFiles_append
    (xs ys : List FileRecord) :
    readableFiles read (xs ++ ys) =
      readableFiles read xs ++ readableFiles read ys := by
  simp [readableFiles]

/-- Every file is either readable or not. -/
theorem length_readableFiles_add_unreadable
    (files : List FileRecord) :
    (readableFiles read files).length +
        files.countP (fun file => (read file).isNone) =
      files.length := by
  induction files with
  | nil =>
      rfl
  | cons file rest ih =>
      cases hread : read file with
      | none =>
          rw [readableFiles_cons_unreadable read hread]
          simp [hread]
          omega
      | some content =>
          rw [readableFiles_cons_readable read hread]
          simp [hread]
          omega

@[simp] theorem reviewedBefore_zero
    (readable : List (FileRecord × String)) :
    reviewedBefore readable 0 = 0 := by
  simp [reviewedBefore]

theorem reviewedBefore_cons_succ
    (source : FileRecord × String)
    (readable : List (FileRecord × String))
    (position : Nat) :
    reviewedBefore (source :: readable) (position + 1) =
      (if isReviewed source.1 then 1 else 0) +
        reviewedBefore readable position := by
  simp [reviewedBefore, List.countP_cons, Nat.add_comm]

end ReadableFiles

section Script

variable (description : String) (answers : List (Except String String)) (limit : Nat)

/-- The place of an answer in the script is the number of prompts before it. -/
theorem ask_scripted
    (earlier : List Prompt)
    (prompt : Prompt) :
    ask (some (Client.scripted description answers)) earlier prompt =
      (answers[earlier.length]?.bind Except.toOption, earlier ++ [prompt]) := by
  cases hanswer : answers[earlier.length]? with
  | none =>
      simp [ask, Client.scripted, List.getD_eq_getElem?_getD, hanswer, Except.toOption]
  | some answer =>
      simp [ask, Client.scripted, List.getD_eq_getElem?_getD, hanswer]

theorem review_of_reviewed
    (earlier : List Prompt)
    {file : FileRecord}
    (content : String)
    (hreviewed : isReviewed file = true) :
    review (scriptedScanner description answers limit) earlier file content =
      (scriptedReview answers earlier.length,
        earlier ++ [promptFor limit (file, content)]) := by
  simp [review, hreviewed, scriptedScanner, ask_scripted, scriptedReview, promptFor]

theorem review_of_not_reviewed
    (scanner : Scanner)
    (earlier : List Prompt)
    {file : FileRecord}
    (content : String)
    (hreviewed : isReviewed file = false) :
    review scanner earlier file content = (none, earlier) := by
  simp [review, hreviewed]

end Script

section Step

variable (scanner : Scanner) (read : ReadFile) (total position : Nat) (earlier : List Prompt)

/-- A file that cannot be read leaves reports and prompts to the rest and counts as skipped. -/
theorem scanFrom_cons_unreadable
    {file : FileRecord}
    (hread : read file = none)
    (rest : List FileRecord) :
    let result := scanFrom scanner read total (position + 1) earlier rest
    scanFrom scanner read total position earlier (file :: rest) =
      { result with
        skipped := result.skipped + 1
        console := skippedLine position total file :: result.console } := by
  simp only [scanFrom, hread]

/-- A readable file puts its report in front, and its prompt before the prompts of the rest. -/
theorem scanFrom_cons_readable
    {file : FileRecord} {content : String}
    (hread : read file = some content)
    (rest : List FileRecord) :
    let answered := review scanner earlier file content
    let report := fileReport file content answered.1
    let result := scanFrom scanner read total (position + 1) answered.2 rest
    scanFrom scanner read total position earlier (file :: rest) =
      { result with
        reports := report :: result.reports
        console := scannedLine position total report :: result.console } := by
  simp only [scanFrom, hread]

end Step

section Run

variable (description : String) (answers : List (Except String String)) (limit : Nat)
variable (read : ReadFile) (total : Nat)

/-- Whatever the model answers, exactly the unreadable files are skipped. -/
theorem scanFrom_skipped
    (scanner : Scanner)
    (position : Nat)
    (earlier : List Prompt)
    (files : List FileRecord) :
    (scanFrom scanner read total position earlier files).skipped =
      files.countP fun file => (read file).isNone := by
  induction files generalizing position earlier with
  | nil =>
      rfl
  | cons file rest ih =>
      cases hread : read file with
      | none =>
          rw [scanFrom_cons_unreadable _ _ _ _ _ hread]
          simp [hread, ih]
      | some content =>
          rw [scanFrom_cons_readable _ _ _ _ _ hread]
          simp [hread, ih]

/-- The conversation grows by one prompt for each reviewed readable file. -/
theorem scanFrom_prompts
    (position : Nat)
    (earlier : List Prompt)
    (files : List FileRecord) :
    (scanFrom (scriptedScanner description answers limit)
        read total position earlier files).prompts =
      earlier ++
        ((readableFiles read files).filter fun source => isReviewed source.1).map
          (promptFor limit) := by
  induction files generalizing position earlier with
  | nil =>
      simp [scanFrom]
  | cons file rest ih =>
      cases hread : read file with
      | none =>
          rw [scanFrom_cons_unreadable _ _ _ _ _ hread,
            readableFiles_cons_unreadable read hread]
          exact ih (position + 1) earlier
      | some content =>
          rw [scanFrom_cons_readable _ _ _ _ _ hread,
            readableFiles_cons_readable read hread]
          cases hreviewed : isReviewed file with
          | false =>
              rw [review_of_not_reviewed _ _ _ hreviewed]
              simp [hreviewed, ih]
          | true =>
              rw [review_of_reviewed _ _ _ _ _ hreviewed]
              simp [hreviewed, ih]

/--
The report at a position is that of the readable file there, with the answer whose place in the
script is the number of prompts before the scan and of reviewed files before the position.
-/
theorem scanFrom_reports
    (position : Nat)
    (earlier : List Prompt)
    (files : List FileRecord)
    (i : Nat) :
    (scanFrom (scriptedScanner description answers limit)
        read total position earlier files).reports[i]? =
      (readableFiles read files)[i]?.map
        (scriptedReport answers
          (earlier.length + reviewedBefore (readableFiles read files) i)) := by
  induction files generalizing position earlier i with
  | nil =>
      simp [scanFrom]
  | cons file rest ih =>
      cases hread : read file with
      | none =>
          rw [scanFrom_cons_unreadable _ _ _ _ _ hread,
            readableFiles_cons_unreadable read hread]
          exact ih (position + 1) earlier i
      | some content =>
          rw [scanFrom_cons_readable _ _ _ _ _ hread,
            readableFiles_cons_readable read hread]
          cases hreviewed : isReviewed file with
          | false =>
              rw [review_of_not_reviewed _ _ _ hreviewed]
              cases i with
              | zero =>
                  simp [scriptedReport, hreviewed]
              | succ i =>
                  simp [reviewedBefore_cons_succ, hreviewed, ih]
          | true =>
              rw [review_of_reviewed _ _ _ _ _ hreviewed]
              cases i with
              | zero =>
                  simp [scriptedReport, hreviewed]
              | succ i =>
                  simp [reviewedBefore_cons_succ, hreviewed, ih, Nat.add_assoc]

end Run

section Alignment

variable (description : String) (answers : List (Except String String)) (limit : Nat)
variable (read : ReadFile) (earlier : List Prompt)

/-- Scripts that agree on the place of a report give the same report. -/
theorem scriptedReport_congr
    {other : List (Except String String)}
    {call : Nat}
    {source : FileRecord × String}
    (hagree : isReviewed source.1 = true → other[call]? = answers[call]?) :
    scriptedReport other call source = scriptedReport answers call source := by
  cases hreviewed : isReviewed source.1 with
  | false =>
      simp [scriptedReport, hreviewed]
  | true =>
      simp [scriptedReport, hreviewed, scriptedReview, hagree hreviewed]

/-- Two scripts that differ in one answer give the same report to every file but one. -/
theorem scanFrom_reports_eq_of_not_turn
    {other : List (Except String String)}
    {turn : Nat}
    (hagree : ∀ call, call ≠ earlier.length + turn → other[call]? = answers[call]?)
    (total position : Nat)
    (files : List FileRecord)
    {i : Nat}
    (hturn : ¬ IsTurn (readableFiles read files) turn i) :
    (scanFrom (scriptedScanner description other limit)
        read total position earlier files).reports[i]? =
      (scanFrom (scriptedScanner description answers limit)
        read total position earlier files).reports[i]? := by
  rw [scanFrom_reports, scanFrom_reports]
  cases hsource : (readableFiles read files)[i]? with
  | none =>
      rfl
  | some source =>
      simp only [Option.map_some]
      congr 1
      apply scriptedReport_congr
      intro hreviewed
      apply hagree
      intro hcall
      exact hturn ⟨source, hsource, hreviewed, by omega⟩

/-- Whether a file that cannot be read is in the list does not matter to the others. -/
theorem readableFiles_without_unreadable
    {gone : FileRecord}
    (hread : read gone = none)
    (before after : List FileRecord) :
    readableFiles read (before ++ gone :: after) =
      readableFiles read (before ++ after) := by
  rw [readableFiles_append, readableFiles_append,
    readableFiles_cons_unreadable read hread]

/--
A scan with a scripted model loses, duplicates and misattributes nothing.

There is one report for each readable file, in order and under its name, and every other file is
skipped; the model is asked once about each reviewed readable file, in order, and about no other
file; the answer about a file is the one whose place in the script is the number of questions before
it.  Therefore a changed answer changes at most the report of the file whose turn it was, and a file
that cannot be read changes neither the reports nor the prompts.
-/
theorem scan_script_aligned
    (files : List FileRecord) :
    let readable := readableFiles read files
    let result := scan (scriptedScanner description answers limit) read earlier files
    result.reports =
      readable.mapIdx (fun i source =>
        scriptedReport answers (earlier.length + reviewedBefore readable i) source) ∧
    result.reports.map FileSecurityReport.file =
      readable.map (fun source => source.1.relativePath) ∧
    result.skipped = files.countP (fun file => (read file).isNone) ∧
    result.reports.length + result.skipped = files.length ∧
    result.prompts =
      earlier ++
        (readable.filter fun source => isReviewed source.1).map (promptFor limit) ∧
    (∀ other turn,
      (∀ call, call ≠ earlier.length + turn → other[call]? = answers[call]?) →
      ∀ i, ¬ IsTurn readable turn i →
        (scan (scriptedScanner description other limit) read earlier files).reports[i]? =
          result.reports[i]?) ∧
    (∀ before gone after,
      files = before ++ gone :: after → read gone = none →
        let shorter :=
          scan (scriptedScanner description answers limit) read earlier (before ++ after)
        shorter.reports = result.reports ∧ shorter.prompts = result.prompts) := by
  intro readable result
  have hreports : result.reports =
      readable.mapIdx fun i source =>
        scriptedReport answers (earlier.length + reviewedBefore readable i) source := by
    apply List.ext_getElem?
    intro i
    rw [List.getElem?_mapIdx]
    exact scanFrom_reports description answers limit read _ _ earlier files i
  have hskipped : result.skipped = files.countP fun file => (read file).isNone :=
    scanFrom_skipped read _ _ _ earlier files
  refine ⟨hreports, ?_, hskipped, ?_, ?_, ?_, ?_⟩
  · apply List.ext_getElem?
    intro i
    rw [hreports, List.getElem?_map, List.getElem?_mapIdx, List.getElem?_map, Option.map_map]
    rfl
  · rw [hreports, hskipped, List.length_mapIdx]
    exact length_readableFiles_add_unreadable read files
  · exact scanFrom_prompts description answers limit read _ _ earlier files
  · intro other turn hagree i hturn
    exact scanFrom_reports_eq_of_not_turn description answers limit read earlier
      hagree _ _ files hturn
  · rintro before gone after rfl hgone shorter
    have hreadable := readableFiles_without_unreadable read hgone before after
    constructor
    · apply List.ext_getElem?
      intro i
      simp only [shorter, result, scan, scanFrom_reports, hreadable]
    · simp only [shorter, result, scan, scanFrom_prompts, hreadable]

end Alignment

/-- A file of a sample scan, with its language. -/
def sampleFile (name language : String) : FileRecord :=
  ⟨"p/" ++ name, name, 5, none, some language⟩

/--
The second answer belongs to the third readable file, in whose report its finding stands: one file
before it cannot be read and another one is not reviewed.
-/
theorem second_answer_aligned :
    let read : ReadFile := fun file =>
      if file.relativePath = "gone.py" then none else some "x = 1"
    let before := [sampleFile "a.py" "python"]
    let gone := sampleFile "gone.py" "python"
    let after := [sampleFile "notes.md" "markdown", sampleFile "b.py" "python"]
    let files := before ++ gone :: after
    let finding := "\x7b\"vulnerabilities\": [\x7b\"type\": \"Constant\", \"line\": 1\x7d]\x7d"
    let answers : List (Except String String) := [.error "timeout", .ok finding]
    let other : List (Except String String) := [.error "timeout", .ok "no object"]
    let result := scan (scriptedScanner "scripted" answers 100) read [] files
    result.reports.map (fun report =>
        (report.file, report.vulnerabilities.map Vulnerability.kind)) =
      [("a.py", []), ("notes.md", []), ("b.py", ["Constant"])] ∧
      IsTurn (readableFiles read files) 1 2 ∧
      ¬ IsTurn (readableFiles read files) 1 0 ∧
      (scan (scriptedScanner "scripted" other 100) read [] files).reports[0]? =
        result.reports[0]? ∧
      (scan (scriptedScanner "scripted" answers 100) read [] (before ++ after)).reports =
        result.reports := by
  intro read before gone after files finding answers other result
  have hturn : IsTurn (readableFiles read files) 1 2 :=
    ⟨(sampleFile "b.py" "python", "x = 1"), by decide, by decide, by decide⟩
  have hfirst : ¬ IsTurn (readableFiles read files) 1 0 := by
    rintro ⟨source, -, -, hbefore⟩
    simp at hbefore
  have hagree : ∀ call, call ≠ 0 + 1 → other[call]? = answers[call]? := by
    intro call hcall
    match call with
    | 0 =>
        rfl
    | 1 =>
        exact absurd rfl hcall
    | call + 2 =>
        rfl
  obtain ⟨hreports, -, -, -, -, hother, hdeleted⟩ :=
    scan_script_aligned "scripted" answers 100 read [] files
  refine ⟨?_, hturn, hfirst, hother other 1 hagree 0 hfirst,
    (hdeleted before gone after rfl (by decide)).1⟩
  rw [hreports]
  decide +kernel

end Security
end CodeAudit
