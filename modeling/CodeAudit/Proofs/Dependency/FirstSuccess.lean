import CodeAudit.Dependency.Scan
import Mathlib.Data.List.Forall2

/-!
# The first launcher that succeeds

A scan tries the launchers that a configuration allows one after another and stops at the first one
that yields findings.  To say so, `attemptsOf` lists what every launcher would come to if none
stopped the scan; a scan makes a beginning of these attempts, and all it reports is read off it.

**Results.**
* `attempt_result_eq_ok_iff`: a launcher succeeds if its program ends in time and a report can be
  read, however the program ended.
* `tryAll_of_success`, `tryAll_of_failures`: what a scan reports of the attempts it makes.
* `attemptsOf_of_agreeing`: attempts depend on the programs of their own launchers alone.
* `scan_first_success`: all of it for the launchers that a configuration allows.
-/

namespace CodeAudit
namespace Dependency

/-! ## One attempt -/

namespace Launcher

/-- The program of a launcher. -/
def program : Launcher → String
  | auto => ""
  | maven => "mvn"
  | cli => "dependency-check"
  | docker => "docker"

theorem label_injective
    {launcher launcher' : Launcher}
    (heq : launcher.label = launcher'.label) :
    launcher = launcher' := by
  revert heq
  cases launcher <;> cases launcher' <;> decide

theorem auto_notMem_allowed
    (fs : FileSystem)
    (config : ScannerConfig)
    (root : String) :
    auto ∉ allowed fs config root := by
  unfold allowed
  cases config.strategy with
  | auto =>
    split <;> simp
  | maven | cli | docker =>
    simp

theorem maven_mem_allowed_iff
    (fs : FileSystem)
    (config : ScannerConfig)
    (root : String) :
    maven ∈ allowed fs config root ↔
      config.strategy = .maven ∨
        config.strategy = .auto ∧ fs.hasFile (Path.join root "pom.xml") = true := by
  unfold allowed
  cases config.strategy with
  | auto =>
    split <;> simp_all
  | maven | cli | docker =>
    simp

end Launcher

theorem program_of_command
    {fs : FileSystem}
    {config : ScannerConfig}
    {root out : String}
    {launcher : Launcher}
    {order : Command}
    (hcommand : command fs config root out launcher = .ok order) :
    order.program = launcher.program := by
  cases launcher with
  | auto =>
    simp [command] at hcommand
  | maven | cli =>
    cases hcommand
    rfl
  | docker =>
    simp only [command] at hcommand
    split at hcommand
    · cases hcommand
      rfl
    all_goals cases hcommand

theorem fault_of_command
    {fs : FileSystem}
    {config : ScannerConfig}
    {root out : String}
    {launcher : Launcher}
    {fault : LaunchFault}
    (hlauncher : launcher ≠ .auto)
    (hcommand : command fs config root out launcher = .error fault) :
    fault ≠ .unresolvedAuto := by
  cases launcher with
  | auto =>
    exact absurd rfl hlauncher
  | maven | cli =>
    cases hcommand
  | docker =>
    simp only [command] at hcommand
    split at hcommand
    · cases hcommand
    all_goals
      cases hcommand
      simp

theorem Run.of_congr
    {programs programs' : Programs}
    {command : Command}
    (hagree : programs' command.program = programs command.program)
    (fs : FileSystem)
    (limit : Nat) :
    Run.of programs' fs limit command = Run.of programs fs limit command := by
  simp only [Run.of, hagree]

theorem hasFile_of_readText
    {fs : FileSystem}
    {path text : String}
    (hread : fs.readText path = .ok text) :
    fs.hasFile path = true := by
  unfold FileSystem.readText FileSystem.readBytes at hread
  unfold FileSystem.hasFile
  cases hentry : fs.entry path with
  | error fault =>
    rw [hentry] at hread
    cases hread
  | ok entry =>
    rw [hentry] at hread
    cases entry with
    | file content written =>
      rfl
    | link target =>
      cases hread
    | directory entries =>
      cases hread

theorem collect_eq_ok_iff
    {fs : FileSystem}
    {path errorOutput : String}
    {finish : Finish}
    {vulnerabilities : List Vulnerability} :
    collect fs path finish errorOutput = .ok vulnerabilities ↔
      ∃ text, fs.readText path = .ok text ∧ findings text = .ok vulnerabilities := by
  simp only [collect]
  cases hread : fs.readText path with
  | error fault =>
    split <;> simp
  | ok text =>
    have hfile := hasFile_of_readText hread
    rw [if_neg (by simp [hfile])]
    cases hfindings : findings text with
    | error reason =>
      simp [hfindings, Except.mapError]
    | ok found =>
      simp [hfindings, Except.mapError]

theorem collect_ne_unresolvedAuto
    (fs : FileSystem)
    (path errorOutput : String)
    (finish : Finish) :
    collect fs path finish errorOutput ≠ .error .unresolvedAuto := by
  simp only [collect]
  split
  · simp
  · split
    · simp
    · rename_i text _
      cases findings text <;> simp [Except.mapError]

section Attempt

/--
A launcher yields findings: its output directory is made, its command built and its program run to an
end within the limit, and then there is a report that can be read.  How the program ended does not
matter.
-/
def Yields
    (programs : Programs)
    (fs : FileSystem)
    (config : ScannerConfig)
    (root out : String)
    (changed : String → Nat)
    (launcher : Launcher)
    (vulnerabilities : List Vulnerability) : Prop :=
  ∃ made order files finish errorOutput text,
    fs.makeDirectories out = .ok made ∧
    command made config root out launcher = .ok order ∧
    Run.of programs made config.timeoutSeconds order = .ended files finish errorOutput ∧
    files.readText (reportPath files root out made.now changed launcher) = .ok text ∧
    findings text = .ok vulnerabilities

variable
  (programs : Programs)
  (config : ScannerConfig)
  (root temporary name : String)
  (changed : String → Nat)

theorem attempt_result_eq_ok_iff
    (fs : FileSystem)
    (launcher : Launcher)
    (vulnerabilities : List Vulnerability) :
    (attempt programs fs config root temporary name changed launcher).result = .ok vulnerabilities ↔
      Yields programs fs config root (Path.join temporary name) changed launcher vulnerabilities := by
  simp only [attempt, attemptIn, Yields]
  cases fs.makeDirectories (Path.join temporary name) with
  | error fault =>
    simp
  | ok made =>
    cases horder : command made config root (Path.join temporary name) launcher with
    | error fault =>
      simp [horder]
    | ok order =>
      cases hrun : Run.of programs made config.timeoutSeconds order with
      | notStarted fault =>
        simp [horder, hrun]
      | timedOut files =>
        simp [horder, hrun]
      | ended files finish errorOutput =>
        simp [horder, hrun, collect_eq_ok_iff]

/-- Only a launcher that is to be resolved fails for not being resolved. -/
theorem attempt_ne_unresolvedAuto
    (fs : FileSystem)
    {launcher : Launcher}
    (hlauncher : launcher ≠ .auto) :
    (attempt programs fs config root temporary name changed launcher).result ≠
      .error .unresolvedAuto := by
  simp only [attempt, attemptIn]
  cases fs.makeDirectories (Path.join temporary name) with
  | error fault =>
    simp
  | ok made =>
    cases horder : command made config root (Path.join temporary name) launcher with
    | error fault =>
      simpa [horder] using fault_of_command hlauncher horder
    | ok order =>
      cases hrun : Run.of programs made config.timeoutSeconds order with
      | notStarted fault =>
        simp [horder, hrun]
      | timedOut files =>
        simp [horder, hrun]
      | ended files finish errorOutput =>
        simpa [horder, hrun] using collect_ne_unresolvedAuto _ _ _ _

end Attempt

/-! ## All attempts -/

section Attempts

variable
  (programs : Programs)
  (config : ScannerConfig)
  (root temporary : String)
  (names : OutputNames)
  (changed : String → Nat)

/-- What the launchers of a list come to, each on the files that the one before leaves. -/
def attemptsOf :
    FileSystem → List Launcher → List (Launcher × Attempt)
  | _, [] => []
  | fs, launcher :: rest =>
    let made := attempt programs fs config root temporary (names launcher) changed launcher
    (launcher, made) :: attemptsOf made.files rest

theorem map_fst_attemptsOf
    (fs : FileSystem)
    (launchers : List Launcher) :
    (attemptsOf programs config root temporary names changed fs launchers).map Prod.fst = launchers := by
  induction launchers generalizing fs with
  | nil =>
    rfl
  | cons launcher rest ih =>
    simp [attemptsOf, ih]

theorem attemptsOf_ne_unresolvedAuto
    (fs : FileSystem)
    {launchers : List Launcher}
    (hauto : .auto ∉ launchers) :
    ∀ tried ∈ attemptsOf programs config root temporary names changed fs launchers,
      tried.2.result ≠ .error .unresolvedAuto := by
  induction launchers generalizing fs with
  | nil =>
    simp [attemptsOf]
  | cons launcher rest ih =>
    rw [List.mem_cons, not_or] at hauto
    intro tried hmem
    rcases List.mem_cons.mp hmem with rfl | hrest
    · exact attempt_ne_unresolvedAuto _ _ _ _ _ _ fs (Ne.symm hauto.1)
    · exact ih _ hauto.2 tried hrest

/-- The files that some attempts leave. -/
def leftBy
    (fs : FileSystem)
    (attempts : List (Launcher × Attempt)) : FileSystem :=
  (attempts.getLast?.map fun tried => tried.2.files).getD fs

/-- An attempt starts with the files that those before it have left. -/
theorem attempt_of_attemptsOf
    {fs : FileSystem}
    {launchers : List Launcher}
    {earlier later : List (Launcher × Attempt)}
    {launcher : Launcher}
    {made : Attempt}
    (hattempts : attemptsOf programs config root temporary names changed fs launchers =
      earlier ++ (launcher, made) :: later) :
    attempt programs (leftBy fs earlier) config root temporary (names launcher) changed launcher =
      made := by
  induction earlier generalizing fs launchers with
  | nil =>
    cases launchers with
    | nil =>
      simp [attemptsOf] at hattempts
    | cons head tail =>
      obtain ⟨rfl, rfl⟩ := Prod.mk.inj (List.cons.inj hattempts).1
      rfl
  | cons first earlier ih =>
    cases launchers with
    | nil =>
      simp [attemptsOf] at hattempts
    | cons head tail =>
      obtain ⟨rfl, htail⟩ := List.cons.inj hattempts
      have hleft : ∀ made : Launcher × Attempt,
          leftBy fs (made :: earlier) = leftBy made.2.files earlier := by
        intro made
        rw [leftBy, leftBy, List.getLast?_cons]
        cases earlier.getLast? <;> rfl
      rw [hleft]
      exact ih htail

end Attempts

/-- A launcher fails with a message that its name begins. -/
def FailsWith
    (tried : Launcher × Attempt)
    (message : String) : Prop :=
  ∃ fault, tried.2.result = .error fault ∧ message = tried.1.label ++ ": " ++ fault.message

theorem exists_failsWith_or_success
    (tried : Launcher × Attempt) :
    (∃ message, FailsWith tried message) ∨
      ∃ vulnerabilities, tried.2.result = .ok vulnerabilities := by
  cases hresult : tried.2.result with
  | error fault =>
    exact .inl ⟨_, fault, hresult, rfl⟩
  | ok vulnerabilities =>
    exact .inr ⟨vulnerabilities, rfl⟩

/-- Attempts fail up to the first one that succeeds, or all of them fail. -/
theorem first_success_or_all_fail
    (attempts : List (Launcher × Attempt)) :
    (∃ failed launcher last rest vulnerabilities errors,
      attempts = failed ++ (launcher, last) :: rest ∧
      List.Forall₂ FailsWith failed errors ∧
      last.result = .ok vulnerabilities) ∨
    ∃ errors, List.Forall₂ FailsWith attempts errors := by
  induction attempts with
  | nil =>
    exact .inr ⟨[], .nil⟩
  | cons tried later ih =>
    rcases exists_failsWith_or_success tried with ⟨message, hfails⟩ | ⟨vulnerabilities, hresult⟩
    · rcases ih with
        ⟨failed, launcher, last, rest, vulnerabilities, errors, rfl, hfailed, hlast⟩ |
        ⟨errors, hfailed⟩
      · exact .inl ⟨tried :: failed, launcher, last, rest, vulnerabilities, message :: errors, rfl,
          .cons hfails hfailed, hlast⟩
      · exact .inr ⟨message :: errors, .cons hfails hfailed⟩
    · exact .inl ⟨[], tried.1, tried.2, later, vulnerabilities, [], rfl, .nil, hresult⟩

section Scan

variable
  {programs : Programs}
  {config : ScannerConfig}
  {root temporary name : String}
  {names : OutputNames}
  {changed : String → Nat}

theorem tryAll_cons_of_failsWith
    {fs : FileSystem}
    {launcher : Launcher}
    {message : String}
    (hfails :
      FailsWith
        (launcher, attempt programs fs config root temporary (names launcher) changed launcher)
        message)
    (errors : List String)
    (rest : List Launcher) :
    tryAll programs config root temporary names changed fs errors (launcher :: rest) =
      tryAll programs config root temporary names changed
        (attempt programs fs config root temporary (names launcher) changed launcher).files
        (errors ++ [message]) rest := by
  obtain ⟨fault, hresult, rfl⟩ := hfails
  dsimp only at hresult
  simp only [tryAll, hresult]

theorem tryAll_of_success
    {fs : FileSystem}
    {launchers : List Launcher}
    {failed rest : List (Launcher × Attempt)}
    {launcher : Launcher}
    {last : Attempt}
    {messages : List String}
    {vulnerabilities : List Vulnerability}
    (hattempts : attemptsOf programs config root temporary names changed fs launchers =
      failed ++ (launcher, last) :: rest)
    (hfailed : List.Forall₂ FailsWith failed messages)
    (hlast : last.result = .ok vulnerabilities)
    (errors : List String) :
    tryAll programs config root temporary names changed fs errors launchers =
      (⟨some launcher.label, vulnerabilities, errors ++ messages⟩, last.files) := by
  -- A failure grows the list of errors and changes the files, so both stay general.
  induction launchers generalizing fs failed messages errors with
  | nil =>
    simp [attemptsOf] at hattempts
  | cons head tail ih =>
    cases hfailed with
    | nil =>
      obtain ⟨hfirst, -⟩ := List.cons.inj hattempts
      obtain ⟨rfl, rfl⟩ := Prod.mk.inj hfirst
      simp [tryAll, hlast]
    | cons hfails hlater =>
      obtain ⟨rfl, htail⟩ := List.cons.inj hattempts
      rw [tryAll_cons_of_failsWith hfails, ih htail hlater, List.append_assoc,
        List.singleton_append]

theorem tryAll_of_failures
    {fs : FileSystem}
    {launchers : List Launcher}
    {messages : List String}
    (hfailed : List.Forall₂ FailsWith
      (attemptsOf programs config root temporary names changed fs launchers) messages)
    (errors : List String) :
    (tryAll programs config root temporary names changed fs errors launchers).1 =
      ⟨none, [], errors ++ messages⟩ := by
  induction launchers generalizing fs messages errors with
  | nil =>
    cases hfailed
    simp [tryAll]
  | cons head tail ih =>
    cases hfailed with
    | cons hfails hlater =>
      rw [tryAll_cons_of_failsWith hfails, ih hlater, List.append_assoc, List.singleton_append]

/-- An attempt is the same on machines that have the same program for its launcher. -/
theorem attempt_of_agreeing
    {programs' : Programs}
    {launcher : Launcher}
    (hagree : programs' launcher.program = programs launcher.program)
    (fs : FileSystem) :
    attempt programs' fs config root temporary (names launcher) changed launcher =
      attempt programs fs config root temporary (names launcher) changed launcher := by
  have hin : ∀ made,
      attemptIn programs' made config root (Path.join temporary (names launcher)) changed launcher =
        attemptIn programs made config root (Path.join temporary (names launcher)) changed
          launcher := by
    intro made
    simp only [attemptIn]
    cases horder : command made config root (Path.join temporary (names launcher)) launcher with
    | error fault =>
      rfl
    | ok order =>
      rw [← program_of_command horder] at hagree
      simp only [Run.of_congr hagree]
  simp only [attempt, hin]

/-- Attempts are made alike as long as the programs of their launchers are the same. -/
theorem attemptsOf_of_agreeing
    {programs' : Programs}
    {fs : FileSystem}
    {launchers : List Launcher}
    {done rest : List (Launcher × Attempt)}
    (hattempts :
      attemptsOf programs config root temporary names changed fs launchers = done ++ rest)
    (hagree : ∀ tried ∈ done, programs' tried.1.program = programs tried.1.program) :
    ∃ rest',
      attemptsOf programs' config root temporary names changed fs launchers = done ++ rest' := by
  -- The induction is on the attempts that are made alike; those behind them may differ.
  induction done generalizing fs launchers with
  | nil =>
    exact ⟨_, rfl⟩
  | cons tried later ih =>
    cases launchers with
    | nil =>
      simp [attemptsOf] at hattempts
    | cons head tail =>
      obtain ⟨rfl, htail⟩ := List.cons.inj hattempts
      rw [List.forall_mem_cons] at hagree
      obtain ⟨rest', hrest⟩ := ih htail hagree.2
      refine ⟨rest', ?_⟩
      simp only [attemptsOf, attempt_of_agreeing hagree.1, hrest, List.cons_append]

end Scan

/--
A scan reports the first launcher that yields findings, these findings, and the messages of the
launchers before it in order; the launchers after it are not started, so that it does not matter what
their programs would do.  If all launchers fail, it reports their messages alone.  The plugin of the
build tool is among the launchers if it is configured or its project file is there, and no launcher
fails for not being resolved.
-/
theorem scan_first_success
    (programs : Programs)
    (fs : FileSystem)
    (config : ScannerConfig)
    (root temporary : String)
    (names : OutputNames)
    (changed : String → Nat) :
    let launchers := Launcher.allowed fs config root
    let attempts := attemptsOf programs config root temporary names changed fs launchers
    attempts.map Prod.fst = launchers ∧
      ((∃ failed launcher last rest vulnerabilities errors,
          attempts = failed ++ (launcher, last) :: rest ∧
          List.Forall₂ FailsWith failed errors ∧
          last.result = .ok vulnerabilities ∧
          Yields programs (leftBy fs failed) config root (Path.join temporary (names launcher)) changed
            launcher vulnerabilities ∧
          scan programs fs config root temporary names changed =
            (⟨some launcher.label, vulnerabilities, errors⟩, last.files) ∧
          ∀ programs' : Programs,
            (∀ tried ∈ failed ++ [(launcher, last)],
              programs' tried.1.program = programs tried.1.program) →
            scan programs' fs config root temporary names changed =
              scan programs fs config root temporary names changed) ∨
        ∃ errors,
          List.Forall₂ FailsWith attempts errors ∧
          (scan programs fs config root temporary names changed).1 = ⟨none, [], errors⟩ ∧
          errors.length = launchers.length) ∧
      (.maven ∈ launchers ↔
        config.strategy = .maven ∨
          config.strategy = .auto ∧ fs.hasFile (Path.join root "pom.xml") = true) ∧
      ∀ tried ∈ attempts, tried.2.result ≠ .error .unresolvedAuto := by
  intro launchers attempts
  have hlaunchers : attempts.map Prod.fst = launchers := map_fst_attemptsOf _ _ _ _ _ _ _ _
  refine ⟨hlaunchers, ?_, Launcher.maven_mem_allowed_iff fs config root,
    attemptsOf_ne_unresolvedAuto _ _ _ _ _ _ fs (Launcher.auto_notMem_allowed fs config root)⟩
  rcases first_success_or_all_fail attempts with
    ⟨failed, launcher, last, rest, vulnerabilities, errors, hattempts, hfailed, hlast⟩ |
    ⟨errors, hfailed⟩
  · have hscan : scan programs fs config root temporary names changed =
        (⟨some launcher.label, vulnerabilities, errors⟩, last.files) :=
      tryAll_of_success hattempts hfailed hlast []
    have hmade := attempt_of_attemptsOf programs config root temporary names changed hattempts
    have hyields := (attempt_result_eq_ok_iff programs config root temporary (names launcher) changed
      (leftBy fs failed) launcher vulnerabilities).mp (by rw [hmade, hlast])
    refine .inl ⟨failed, launcher, last, rest, vulnerabilities, errors, hattempts, hfailed, hlast,
      hyields, hscan, ?_⟩
    intro programs' hagree
    rw [List.append_cons] at hattempts
    obtain ⟨rest', hrest⟩ := attemptsOf_of_agreeing hattempts hagree
    rw [← List.append_cons] at hrest
    rw [hscan]
    exact tryAll_of_success hrest hfailed hlast []
  · refine .inr ⟨errors, hfailed, tryAll_of_failures hfailed [], ?_⟩
    rw [← hfailed.length_eq, ← hlaunchers, List.length_map]

/-- A report of the scanner with one vulnerability. -/
def sampleReport : String :=
  "\x7b\"dependencies\": [\x7b\"fileName\": \"a.jar\", \"vulnerabilities\": " ++
    "[\x7b\"name\": \"CVE-2021-44228\"\x7d]\x7d]\x7d"

/-- A machine with a project of the build tool. -/
def sampleMachine : FileSystem where
  root := .directory
    [("p", .directory [("pom.xml", .file "<project/>".toUTF8 0)]), ("tmp", .directory [])]
  current := []
  now := 0

/-- The build tool fails, the scanner leaves a report though it ends badly, and containers are as
given. -/
def samplePrograms (containers : Option (FileSystem → Command → Effect)) : Programs
  | "mvn" => some fun fs _ => ⟨fs, "[ERROR] no network", .exited 1, some 3⟩
  | "dependency-check" => some fun fs _ =>
    ⟨fs.place "tmp/1" reportFile (.file sampleReport.toUTF8 0), "", .exited 1, some 4⟩
  | "docker" => containers
  | _ => none

/-- What a scan with these programs reports. -/
def foundSecond : DependencyOutcome where
  tool := some "dependency-check-cli"
  vulnerabilities :=
    [(⟨"CVE-2021-44228", none, none, none, none⟩ : ReportedVulnerability).finding "a.jar"]
  errors := ["maven-plugin: exited with exit status: 1: [ERROR] no network"]

/-- A container whose scanner finds nothing. -/
def sampleContainer (fs : FileSystem) (_ : Command) : Effect :=
  ⟨fs.place "tmp/1" reportFile (.file "\x7b\x7d".toUTF8 0), "", .exited 0, some 1⟩

/-- The second of three launchers succeeds, and the third one, which would too, is not started. -/
theorem second_launcher_succeeds :
    (scan (samplePrograms none) sampleMachine .default "p" "tmp" "1").1 = foundSecond ∧
      (attempt (samplePrograms (some sampleContainer)) sampleMachine .default "p" "tmp" "1"
        (fun _ => 0) .docker).result.toOption = some [] ∧
      scan (samplePrograms (some sampleContainer)) sampleMachine .default "p" "tmp" "1" =
        scan (samplePrograms none) sampleMachine .default "p" "tmp" "1" := by
  have hallowed :
      Launcher.allowed sampleMachine .default "p" = [.maven, .cli, .docker] := by
    decide +kernel
  have houtcome :
      (scan (samplePrograms none) sampleMachine .default "p" "tmp" "1").1 = foundSecond := by
    decide +kernel
  refine ⟨houtcome, by decide +kernel, ?_⟩
  have htool : (scan (samplePrograms none) sampleMachine .default "p" "tmp" "1").1.tool =
      some Launcher.cli.label := by
    rw [houtcome]
    rfl
  obtain ⟨hlaunchers, hturn, -⟩ :=
    scan_first_success (samplePrograms none) sampleMachine .default "p" "tmp" "1" fun _ => 0
  rcases hturn with
    ⟨failed, launcher, last, rest, vulnerabilities, errors, hattempts, -, -, -, hscan, hsame⟩ |
    ⟨errors, -, hscan, -⟩
  · apply hsame
    rw [hscan, Option.some_inj] at htool
    have hlauncher : launcher = .cli := Launcher.label_injective htool
    rw [hattempts, hallowed, hlauncher] at hlaunchers
    -- The scanner's own launcher is the second one, so that one attempt has failed.
    rcases failed with _ | ⟨first, _ | ⟨second, later⟩⟩
    · simp at hlaunchers
    · have hfirst : first.1 = .maven := (List.cons.inj hlaunchers).1
      intro tried htried
      rcases List.mem_cons.mp htried with rfl | hlast
      · rw [hfirst]
        rfl
      · rw [List.mem_singleton.mp hlast, hlauncher]
        rfl
    · simp only [List.cons_append, List.map_cons, List.map_append, List.cons.injEq] at hlaunchers
      cases later <;> simp at hlaunchers
  · rw [hscan] at htool
    cases htool

end Dependency
end CodeAudit
