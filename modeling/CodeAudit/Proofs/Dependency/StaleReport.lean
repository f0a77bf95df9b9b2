import CodeAudit.Proofs.Dependency.FirstSuccess
import CodeAudit.Proofs.Files.Removal

/-!
# Reports of earlier runs

The plugin of the build tool may write its report below the project, so a scan may find one there
that an earlier run has left.  Its outcome is compared with that of a scan of the same project
without this report.  The programs act alike in both, and what the scan looks at by itself does not
lead to the report; then every attempt comes to the same and leaves the same files, apart from the
report, and so the whole scan does.

That nothing leads to the report is needed: a link is followed wherever it stands.  So is that the
programs act alike, since a scan passes on what they say.

**Results.**
* `reportPath_of_older`: a report that is older than the run is not looked at.
* `attempt_without`: one attempt with and without some entries.
* `tryAll_without`: all attempts.
* `scan_without_stale_report`: scans of a project with a report of an earlier run.
-/

namespace CodeAudit

namespace Run

/-- What a run turns out to be without some entries. -/
def without (spot : Spot) : Run → Run
  | .notStarted fault => .notStarted fault
  | .timedOut files => .timedOut (files.without spot)
  | .ended files finish errorOutput => .ended (files.without spot) finish errorOutput

end Run

namespace Dependency

open FileSystem

/-! ## One attempt -/

/-- A program does the same with and without some entries, and leaves them as they are. -/
structure Alike
    (spot : Spot)
    (effect effect' : Effect) : Prop where
  files : effect'.files = effect.files.without spot
  errorOutput : effect'.errorOutput = effect.errorOutput
  finish : effect'.finish = effect.finish
  duration : effect'.duration = effect.duration

section Attempt

variable
  (programs : Programs)
  (config : ScannerConfig)
  (root temporary name : String)
  (changed : String → Nat)
  (spot : Spot)

/-- The files that a program leaves do not lead the scan to what goes. -/
structure LeavesClear (files : FileSystem) : Prop where
  removal : files.Avoids spot temporary
  report : files.Avoids spot (Path.join (Path.join temporary name) reportFile)

/-- An attempt keeps clear of what goes: the output directory is made, the project is found and the
program is run without it. -/
structure AttemptClear
    (fs : FileSystem)
    (launcher : Launcher) : Prop where
  opens : fs.OpensClear spot (Path.join temporary name :: Path.above (Path.join temporary name))
  made : ∀ made, fs.makeDirectories (Path.join temporary name) = .ok made →
    made.Avoids spot root ∧ made.Avoids spot temporary
  run : ∀ made order program,
    fs.makeDirectories (Path.join temporary name) = .ok made →
      command made config root (Path.join temporary name) launcher = .ok order →
        programs order.program = some program →
          Alike spot (program made order) (program (made.without spot) order) ∧
            LeavesClear temporary name spot (program made order).files

/-- A report below the project was changed before a time. -/
def ReportOlder (files : FileSystem) (launched : Nat) : Prop :=
  ∀ time, changedAt? files changed (Path.join (Path.join root "target") reportFile) = some time →
    time < launched

/-- After a run of the build tool the report below the project is older than this run. -/
def PluginReportOlder (fs : FileSystem) (launcher : Launcher) : Prop :=
  launcher = .maven → ∀ made order program,
    fs.makeDirectories (Path.join temporary name) = .ok made →
      command made config root (Path.join temporary name) launcher = .ok order →
        programs order.program = some program →
          ReportOlder root changed (program made order).files made.now

end Attempt

section Lemmas

variable
  {programs : Programs}
  {config : ScannerConfig}
  {root temporary name : String}
  {changed : String → Nat}
  {spot : Spot}
  {launcher : Launcher}

theorem command_of_avoids
    {fs : FileSystem}
    (havoids : fs.Avoids spot root)
    (out : String) :
    command (fs.without spot) config root out launcher = command fs config root out launcher := by
  have hproject : projectName (fs.without spot) root = projectName fs root := by
    unfold projectName
    rw [realPath?_of_avoids havoids]
  cases launcher with
  | auto | maven =>
      rfl
  | cli =>
      simp only [command, hproject]
  | docker =>
      have hpath := realPath?_of_avoids havoids
      rcases entry_of_avoids havoids with hsame | ⟨entries, altered, hwith, hwithout⟩
      · simp only [command, hproject, hpath, hsame]
      · simp only [command, hproject, hpath, hwith, hwithout]
        cases fs.realPath? root <;> rfl

/-- A command is started in the directory of the project, if in any of its own. -/
theorem directory_of_command
    {fs : FileSystem}
    {out path : String}
    {order : Command}
    (horder : command fs config root out launcher = .ok order)
    (hdirectory : order.directory = some path) :
    path = root := by
  cases launcher with
  | auto =>
      cases horder
  | maven =>
      obtain rfl := Except.ok.inj horder
      exact (Option.some.inj hdirectory).symm
  | cli =>
      obtain rfl := Except.ok.inj horder
      cases hdirectory
  | docker =>
      simp only [command] at horder
      split at horder
      · obtain rfl := Except.ok.inj horder
        cases hdirectory
      · cases horder
      · cases horder

theorem directoryFault?_of_avoids
    {fs : FileSystem}
    {order : Command}
    (havoids : ∀ path, order.directory = some path → fs.Avoids spot path) :
    order.directoryFault? (fs.without spot) = order.directoryFault? fs := by
  unfold Command.directoryFault?
  cases hdirectory : order.directory with
  | none =>
      rfl
  | some path =>
      rcases entry_of_avoids (havoids path hdirectory) with
        hsame | ⟨entries, altered, hwith, hwithout⟩
      · simp only [Option.bind_some, hsame]
      · simp only [Option.bind_some, hwith, hwithout]
        rfl

theorem run_of_alike
    {fs : FileSystem}
    {order : Command}
    (havoids : ∀ path, order.directory = some path → fs.Avoids spot path)
    (halike : ∀ program, programs order.program = some program →
      Alike spot (program fs order) (program (fs.without spot) order))
    (limit : Nat) :
    Run.of programs (fs.without spot) limit order = (Run.of programs fs limit order).without spot := by
  unfold Run.of
  by_cases hzero : order.holdsZero = true
  · simp only [if_pos hzero, Run.without]
  · simp only [if_neg hzero, directoryFault?_of_avoids havoids]
    cases order.directoryFault? fs with
    | some fault =>
        rfl
    | none =>
        cases hprogram : programs order.program with
        | none =>
            rfl
        | some program =>
            obtain ⟨hfiles, herror, hfinish, hduration⟩ := halike program hprogram
            simp only [hfiles, herror, hfinish, hduration]
            split
            · rfl
            · split <;> rfl

/-- The files after a run are those that the program leaves. -/
theorem files_of_run
    {fs : FileSystem}
    {limit : Nat}
    {order : Command} :
    (∃ fault, Run.of programs fs limit order = .notStarted fault) ∨
      ∃ program, programs order.program = some program ∧
        (Run.of programs fs limit order = .timedOut (program fs order).files ∨
          Run.of programs fs limit order = .ended (program fs order).files
            (program fs order).finish (program fs order).errorOutput) := by
  unfold Run.of
  by_cases hzero : order.holdsZero = true
  · exact .inl ⟨.zeroCharacter, if_pos hzero⟩
  · simp only [if_neg hzero]
    cases order.directoryFault? fs with
    | some fault =>
        exact .inl ⟨.noDirectory fault, rfl⟩
    | none =>
        cases programs order.program with
        | none =>
            exact .inl ⟨.missing, rfl⟩
        | some program =>
            by_cases hlong : order.isTooLong = true
            · exact .inl ⟨.tooLong, if_pos hlong⟩
            · right
              refine ⟨program, rfl, ?_⟩
              simp only [if_neg hlong]
              split
              · exact .inr rfl
              · exact .inl rfl

theorem changedAt?_of_without
    {files : FileSystem}
    {path : String}
    {time : Nat}
    (htime : changedAt? (files.without spot) changed path = some time) :
    changedAt? files changed path = some time := by
  unfold changedAt? at htime
  cases hentry : (files.without spot).entry path with
  | error fault =>
      rw [hentry] at htime
      cases htime
  | ok entry =>
      rw [hentry] at htime
      rw [changedAt?]
      rcases entry_of_without hentry with hsame | ⟨entries, altered, hwith, rfl⟩
      · rwa [hsame]
      · rwa [hwith]

theorem not_fresh_of_older
    {files : FileSystem}
    {launched : Nat}
    (holder : ReportOlder root changed files launched) :
    (changedAt? files changed (Path.join (Path.join root "target") reportFile)).any (launched ≤ ·) =
      false := by
  cases htime : changedAt? files changed (Path.join (Path.join root "target") reportFile) with
  | none =>
      rfl
  | some time =>
      have hlt := holder time htime
      simpa using hlt

/-- A report below the project that is older than the run is not looked at. -/
theorem reportPath_of_older
    {files : FileSystem}
    {launched : Nat}
    (holder : launcher = .maven → ReportOlder root changed files launched)
    (out : String) :
    reportPath files root out launched changed launcher = Path.join out reportFile := by
  cases launcher with
  | auto | cli | docker =>
      rfl
  | maven =>
      simp [reportPath, not_fresh_of_older (holder rfl)]

theorem collect_of_avoids
    {files : FileSystem}
    {path : String}
    (havoids : files.Avoids spot path)
    (finish : Finish)
    (errorOutput : String) :
    collect (files.without spot) path finish errorOutput =
      collect files path finish errorOutput := by
  simp only [collect, hasFile_of_avoids havoids, readText_of_avoids havoids]

/-- What an attempt comes to without some entries. -/
def Attempt.without (spot : Spot) (tried : Attempt) : Attempt :=
  { tried with files := tried.files.without spot }

theorem attemptIn_without
    {made : FileSystem}
    (hroot : made.Avoids spot root)
    (htemporary : made.Avoids spot temporary)
    (hrun : ∀ order program,
      command made config root (Path.join temporary name) launcher = .ok order →
        programs order.program = some program →
          Alike spot (program made order) (program (made.without spot) order) ∧
            LeavesClear temporary name spot (program made order).files)
    (holder : launcher = .maven → ∀ order program,
      command made config root (Path.join temporary name) launcher = .ok order →
        programs order.program = some program →
          ReportOlder root changed (program made order).files made.now) :
    attemptIn programs (made.without spot) config root (Path.join temporary name) changed launcher =
        (attemptIn programs made config root (Path.join temporary name) changed launcher).without
          spot ∧
      (attemptIn programs made config root (Path.join temporary name) changed launcher).files.Avoids
        spot temporary := by
  unfold attemptIn
  rw [command_of_avoids hroot]
  cases horder : command made config root (Path.join temporary name) launcher with
  | error fault =>
      exact ⟨rfl, htemporary⟩
  | ok order =>
      have halike := run_of_alike
        (fun path hdirectory => directory_of_command horder hdirectory ▸ hroot)
        (fun program hprogram => (hrun order program horder hprogram).1) config.timeoutSeconds
      simp only [halike]
      rcases files_of_run with ⟨fault, hnot⟩ | ⟨program, hprogram, htimed | hended⟩
      · rw [hnot]
        exact ⟨rfl, htemporary⟩
      · rw [htimed]
        exact ⟨rfl, (hrun order program horder hprogram).2.removal⟩
      · have hclear := (hrun order program horder hprogram).2
        have hwith : launcher = .maven →
            ReportOlder root changed (program made order).files made.now :=
          fun hmaven => holder hmaven order program horder hprogram
        have hwithout : launcher = .maven →
            ReportOlder root changed ((program made order).files.without spot) made.now :=
          fun hmaven time htime => hwith hmaven time (changedAt?_of_without htime)
        have hnow : (made.without spot).now = made.now := rfl
        rw [hended]
        refine ⟨?_, hclear.removal⟩
        simp only [Run.without, Attempt.without, hnow, reportPath_of_older hwith,
          reportPath_of_older hwithout, collect_of_avoids hclear.report]

/-- An attempt that keeps clear of some entries comes to the same without them. -/
theorem attempt_without
    {fs : FileSystem}
    (hclear : AttemptClear programs config root temporary name spot fs launcher)
    (holder : PluginReportOlder programs config root temporary name changed fs launcher) :
    attempt programs (fs.without spot) config root temporary name changed launcher =
      (attempt programs fs config root temporary name changed launcher).without spot := by
  unfold attempt
  simp only
  rw [makeDirectories_of_opensClear hclear.opens]
  cases hmade : fs.makeDirectories (Path.join temporary name) with
  | error fault =>
      exact congrArg (Attempt.mk _) (afterDirectories_of_opensClear hclear.opens)
  | ok made =>
      obtain ⟨hroot, htemporary⟩ := hclear.made made hmade
      obtain ⟨hin, hleft⟩ := attemptIn_without hroot htemporary
        (fun order program => hclear.run made order program hmade)
        (fun hmaven order program => holder hmaven made order program hmade)
      simp only [Except.map, hin]
      exact congrArg (Attempt.mk _) (remove_of_avoids hleft name)

end Lemmas

/-! ## All attempts -/

section Scan

/-- The attempts that a scan makes keep clear of what goes and find no newer report below the
project, each on the files that the one before leaves. -/
def ScanClear
    (programs : Programs)
    (config : ScannerConfig)
    (root temporary : String)
    (names : OutputNames)
    (changed : String → Nat)
    (spot : Spot) :
    FileSystem → List Launcher → Prop
  | _, [] => True
  | fs, launcher :: rest =>
    let tried := attempt programs fs config root temporary (names launcher) changed launcher
    AttemptClear programs config root temporary (names launcher) spot fs launcher ∧
      PluginReportOlder programs config root temporary (names launcher) changed fs launcher ∧
        ∀ fault, tried.result = .error fault →
          ScanClear programs config root temporary names changed spot tried.files rest

variable
  {programs : Programs}
  {config : ScannerConfig}
  {root temporary : String}
  {names : OutputNames}
  {changed : String → Nat}
  {spot : Spot}

theorem tryAll_without
    {fs : FileSystem}
    {launchers : List Launcher}
    (hclear : ScanClear programs config root temporary names changed spot fs launchers)
    (errors : List String) :
    (tryAll programs config root temporary names changed (fs.without spot) errors launchers).1 =
      (tryAll programs config root temporary names changed fs errors launchers).1 := by
  -- A launcher that fails leaves other files and a longer list of errors to the next one.
  induction launchers generalizing fs errors with
  | nil =>
      rfl
  | cons launcher rest ih =>
      obtain ⟨hattempt, holder, hrest⟩ := hclear
      simp only [tryAll, attempt_without hattempt holder, Attempt.without]
      cases hresult :
        (attempt programs fs config root temporary (names launcher) changed launcher).result with
      | ok vulnerabilities =>
          rfl
      | error fault =>
          exact ih (hrest fault hresult) _

theorem allowed_without
    {fs : FileSystem}
    (hproject : config.strategy = .auto → fs.Avoids spot (Path.join root "pom.xml")) :
    Launcher.allowed (fs.without spot) config root = Launcher.allowed fs config root := by
  unfold Launcher.allowed
  cases hstrategy : config.strategy with
  | auto =>
      simp only [hasFile_of_avoids (hproject hstrategy)]
  | maven | cli | docker =>
      rfl

end Scan

/--
A report of an earlier run does not matter to a scan.  If it was written before each run of the
build tool and is not written again, if the programs act alike without it, and if nothing else that
the scan looks at leads to it, then a scan has the same outcome on the project without it.  Where
the scanner is started as a program or in a container, the same holds of any entries of any
directory, such as all of the directory of that report, however new they are.
-/
theorem scan_without_stale_report
    (programs : Programs)
    (fs : FileSystem)
    (config : ScannerConfig)
    (root temporary : String)
    (names : OutputNames)
    (changed : String → Nat) :
    ((∀ place, fs.realPath? (Path.join root "target") = some place →
        (config.strategy = .auto →
          fs.Avoids ⟨place, (· == reportFile)⟩ (Path.join root "pom.xml")) ∧
        ScanClear programs config root temporary names changed ⟨place, (· == reportFile)⟩ fs
          (Launcher.allowed fs config root)) →
      (scan programs (fs.remove (Path.join root "target") reportFile) config root temporary names
        changed).1 =
        (scan programs fs config root temporary names changed).1) ∧
    ∀ spot launcher name, launcher = .cli ∨ launcher = .docker →
      AttemptClear programs config root temporary name spot fs launcher →
        (attempt programs (fs.without spot) config root temporary name changed launcher).result =
          (attempt programs fs config root temporary name changed launcher).result := by
  constructor
  · intro hclear
    cases hplace : fs.realPath? (Path.join root "target") with
    | none =>
        have hremove : fs.remove (Path.join root "target") reportFile = fs := by
          rw [FileSystem.remove, hplace]
        rw [hremove]
    | some place =>
        obtain ⟨hproject, hattempts⟩ := hclear place hplace
        have hremove : fs.remove (Path.join root "target") reportFile =
            fs.without ⟨place, (· == reportFile)⟩ := by
          rw [FileSystem.remove, hplace]
          rfl
        rw [hremove]
        unfold scan
        rw [allowed_without hproject]
        exact tryAll_without hattempts []
  · intro spot launcher name hlauncher hclear
    have holder : PluginReportOlder programs config root temporary name changed fs launcher := by
      rintro rfl
      rcases hlauncher with hcli | hdocker
      · cases hcli
      · cases hdocker
    rw [attempt_without hclear holder]
    rfl

/-- A machine with a project of the build tool and a report below it, written at time 0. -/
def reportedProject (now : Nat) : FileSystem where
  root := .directory
    [("p", .directory
      [("pom.xml", .file "<project/>".toUTF8 0),
       ("target", .directory [(reportFile, .file sampleReport.toUTF8 0)])]),
     ("tmp", .directory [])]
  current := []
  now := now

/-- The same machine with an output directory. -/
def openedProject (now : Nat) : FileSystem :=
  (reportedProject now).changed ["tmp"] (Entry.setIn "1" (.directory []))

/-- All programs end well without doing anything. -/
def idlePrograms : Programs := fun _ => some fun fs _ => ⟨fs, "", .exited 0, some 1⟩

/-- An idle program keeps clear of anything below the project's `target`. -/
theorem idle_attemptClear
    (now : Nat)
    (gone : String → Bool)
    (launcher : Launcher) :
    AttemptClear idlePrograms .default "p" "tmp" "1" ⟨["p", "target"], gone⟩ (reportedProject now)
      launcher := by
  have hmake : (reportedProject now).makeDirectories (Path.join "tmp" "1") =
      .ok (openedProject now) := by
    rfl
  have hensure : (reportedProject now).ensureDirectory (Path.join "tmp" "1") =
      .ok (openedProject now) := by
    rfl
  have hout : (reportedProject now).visits (Path.join "tmp" "1") = [["tmp"], ["tmp", "1"]] := by
    rfl
  have hproject : (openedProject now).visits "p" = [["p"]] := by
    rfl
  have htemporary : (openedProject now).visits "tmp" = [["tmp"]] := by
    rfl
  have hreport : (openedProject now).visits (Path.join (Path.join "tmp" "1") reportFile) =
      [["tmp"], ["tmp", "1"], ["tmp", "1", reportFile]] := by
    rfl
  exact {
    opens := by
      refine ⟨avoids_of_outside (by simp [hout]), fun hmissing => ?_⟩
      rw [hensure] at hmissing
      cases hmissing
    made := by
      intro made hmade
      obtain rfl := Except.ok.inj (hmake.symm.trans hmade)
      exact ⟨avoids_of_outside (by simp [hproject]), avoids_of_outside (by simp [htemporary])⟩
    run := by
      intro made order program hmade _ hprogram
      obtain rfl := Except.ok.inj (hmake.symm.trans hmade)
      obtain rfl := Option.some.inj hprogram
      refine ⟨⟨rfl, rfl, rfl, rfl⟩, avoids_of_outside ?_, avoids_of_outside ?_⟩
      · simp [htemporary]
      · simp [hreport] }

theorem idle_reportOlder
    (launcher : Launcher) :
    PluginReportOlder idlePrograms .default "p" "tmp" "1" (fun _ => 1) (reportedProject 1)
      launcher := by
  intro _ made order program hmade _ hprogram time htime
  have hmake : (reportedProject 1).makeDirectories (Path.join "tmp" "1") =
      .ok (openedProject 1) := by
    rfl
  have hreport : changedAt? (openedProject 1) (fun _ => 1)
      (Path.join (Path.join "p" "target") reportFile) = some 0 := by
    rfl
  obtain rfl := Except.ok.inj (hmake.symm.trans hmade)
  obtain rfl := Option.some.inj hprogram
  obtain rfl := Option.some.inj (hreport.symm.trans htime)
  decide

theorem idle_scanClear
    (launchers : List Launcher) :
    ScanClear idlePrograms .default "p" "tmp" "1" (fun _ => 1)
      ⟨["p", "target"], (· == reportFile)⟩ (reportedProject 1) launchers := by
  induction launchers with
  | nil =>
      trivial
  | cons launcher rest ih =>
      refine ⟨idle_attemptClear 1 _ launcher, idle_reportOlder launcher, fun fault _ => ?_⟩
      have hfiles :
          (attempt idlePrograms (reportedProject 1) .default "p" "tmp" "1" (fun _ => 1)
            launcher).files = reportedProject 1 := by
        cases launcher <;> rfl
      rw [hfiles]
      exact ih

/-- What a scan with idle programs reports. -/
def nothingFound : DependencyOutcome :=
  let missing := ": no report at tmp/1/dependency-check-report.json: " ++ FileFault.message .missing
  ⟨none, [], ["maven-plugin" ++ missing, "dependency-check-cli" ++ missing, "docker" ++ missing]⟩

/-- A report that would be taken if it were new is left alone, and the launchers that never take it
do not depend on anything beside it. -/
theorem earlier_report_left_alone :
    (attempt idlePrograms (reportedProject 0) .default "p" "tmp" "1" (fun _ => 1)
        .maven).result.isOk = true ∧
      (scan idlePrograms (reportedProject 1) .default "p" "tmp" "1" (fun _ => 1)).1 =
        nothingFound ∧
      (scan idlePrograms ((reportedProject 1).remove (Path.join "p" "target") reportFile) .default
        "p" "tmp" "1" (fun _ => 1)).1 = nothingFound ∧
      (attempt idlePrograms ((reportedProject 0).without ⟨["p", "target"], fun _ => true⟩) .default
        "p" "tmp" "1" (fun _ => 1) .cli).result =
          (attempt idlePrograms (reportedProject 0) .default "p" "tmp" "1" (fun _ => 1)
            .cli).result := by
  have houtcome :
      (scan idlePrograms (reportedProject 1) .default "p" "tmp" "1" (fun _ => 1)).1 =
        nothingFound := by
    decide +kernel
  obtain ⟨hstale, -⟩ := scan_without_stale_report idlePrograms (reportedProject 1) .default "p" "tmp"
    "1" (fun _ => 1)
  obtain ⟨-, hunread⟩ := scan_without_stale_report idlePrograms (reportedProject 0) .default "p"
    "tmp" "1" (fun _ => 1)
  refine ⟨by decide +kernel, houtcome, ?_, ?_⟩
  · rw [hstale, houtcome]
    intro place hplace
    have htarget : (reportedProject 1).realPath? (Path.join "p" "target") =
        some ["p", "target"] := by
      rfl
    have hproject : (reportedProject 1).visits (Path.join "p" "pom.xml") =
        [["p"], ["p", "pom.xml"]] := by
      rfl
    obtain rfl := Option.some.inj (htarget.symm.trans hplace)
    exact ⟨fun _ => avoids_of_outside (by simp [hproject]), idle_scanClear _⟩
  · exact hunread _ _ _ (.inl rfl) (idle_attemptClear 0 _ .cli)

/-! ## When an earlier report matters -/

/-- A project whose build file is a link to the report of an earlier run. -/
def linkedProject : FileSystem where
  root := .directory
    [("p", .directory
      [("pom.xml", .link "target/dependency-check-report.json"),
       ("target", .directory [(reportFile, .file "\x7b\x7d".toUTF8 0)])]),
     ("tmp", .directory [])]
  current := []
  now := 1

/-- The scanner makes a link to the report of an earlier run instead of its own. -/
def linkingPrograms : Programs
  | "dependency-check" => some fun fs _ =>
    ⟨fs.place "tmp/1" reportFile (.link "/p/target/dependency-check-report.json"), "", .exited 0,
      some 1⟩
  | _ => none

/-- The build tool fails and says whether it has seen the report of an earlier run. -/
def tellingPrograms : Programs
  | "mvn" => some fun fs _ =>
    let seen := fs.hasFile "p/target/dependency-check-report.json"
    ⟨fs, if seen then "old report" else "no report", .exited 1, some 1⟩
  | _ => none

/-- An earlier report makes a difference to the outcome of a scan. -/
def ReportMatters (programs : Programs) (fs : FileSystem) : Prop :=
  changedAt? fs (fun _ => 0) "p/target/dependency-check-report.json" = some 0 ∧ 0 < fs.now ∧
    (scan programs fs .default "p" "tmp" "1").1 ≠
      (scan programs (fs.remove "p/target" reportFile) .default "p" "tmp" "1").1

instance (programs : Programs) (fs : FileSystem) : Decidable (ReportMatters programs fs) :=
  inferInstanceAs (Decidable (_ ∧ _ ∧ _))

/--
A report of an earlier run does matter where links lead to it or a program tells of it.  If the build
file is a link to it, then without the report there is no project of the build tool.  If the scanner
leaves a link to it, then it is passed off as new.
-/
theorem earlier_report_may_matter :
    ReportMatters (fun _ => none) linkedProject ∧
      ReportMatters linkingPrograms (reportedProject 1) ∧
      ReportMatters tellingPrograms (reportedProject 1) := by
  decide +kernel

end Dependency
end CodeAudit
