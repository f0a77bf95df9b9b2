import CodeAudit.Proofs.Files.Unlinking
import CodeAudit.Proofs.Packaging.Fallback

/-!
# What becomes of the scratch file

The external program is handed a path for its output.  Once the codebase is packaged nothing should be
at this path, or a copy of the codebase is left among the temporary files.

The output is removed when the program fails and when its text has been read.  It is not removed when the
program is stopped at its limit, and not when it ends well with an output that cannot be read; and what
is removed is a file or a link, so a directory stays in any case.  Nothing else is touched.

**Results.**
* `isTaken_discard_iff`, `discard_sameBut`: what removing the output comes to.
* `runExternal_stays_iff`: the ways out of a run on which something stays.
* `scratch_stays_iff`: the same for a package, and what else the files are.
* `scratch_left_behind`: two runs after which a copy is left.
-/

namespace CodeAudit

/-- The files as a run leaves them. -/
def Run.files (before : FileSystem) : Run → FileSystem
  | .notStarted _ => before
  | .timedOut left => left
  | .ended left _ _ => left

namespace Packaging

open FileSystem

/-- The runs of the external program after which something stays at the path of its output. -/
inductive Stays
    (fs : FileSystem)
    (scratch : String) : Run → Prop
  /-- The program was not started, and something was there before. -/
  | notStarted
      {fault : StartFault}
      (hbefore : fs.isTaken scratch = true) :
      Stays fs scratch (.notStarted fault)
  /-- The program was stopped, and something was there by then. -/
  | timedOut
      {left : FileSystem}
      (hleft : left.isTaken scratch = true) :
      Stays fs scratch (.timedOut left)
  /-- The program ended well, and what it left there cannot be read as a text. -/
  | unreadable
      {left : FileSystem}
      {errorOutput : String}
      (fault : FileFault)
      (hread : left.readText scratch = .error fault)
      (hleft : left.isTaken scratch = true) :
      Stays fs scratch (.ended left (.exited 0) errorOutput)
  /-- The program failed, and it left a directory there. -/
  | directory
      {left : FileSystem}
      {finish : Finish}
      {errorOutput : String}
      {place : List String}
      {entry : Entry}
      (hfailed : finish ≠ .exited 0)
      (hnames : left.Names scratch place entry)
      (hdirectory : entry.isDirectory = true) :
      Stays fs scratch (.ended left finish errorOutput)

/-! ## Removing the output -/

theorem discard_sameBut
    (files : FileSystem)
    (scratch : String) :
    SameBut (fun place => ∃ entry, files.Names scratch place entry) files
      (discard files scratch) := by
  unfold discard
  cases hremove : files.removeFile scratch with
  | error fault =>
      exact .refl _ files
  | ok later =>
      exact removeFile_sameBut hremove

/-- Only a directory stays where the output is removed. -/
theorem isTaken_discard_iff
    {files : FileSystem}
    {scratch : String} :
    (discard files scratch).isTaken scratch = true ↔
      ∃ place entry, files.Names scratch place entry ∧ entry.isDirectory = true := by
  unfold discard
  cases hremove : files.removeFile scratch with
  | error fault =>
      change files.isTaken scratch = true ↔ _
      rw [isTaken_iff]
      constructor
      · rintro ⟨place, entry, hnames⟩
        refine ⟨place, entry, hnames, ?_⟩
        by_contra hfile
        obtain ⟨later, hlater⟩ := exists_removeFile hnames (Bool.eq_false_iff.mpr hfile)
        cases hremove.symm.trans hlater
      · rintro ⟨place, entry, hnames, -⟩
        exact ⟨place, entry, hnames⟩
  | ok later =>
      change later.isTaken scratch = true ↔ _
      rw [isTaken_removeFile hremove]
      obtain ⟨trail, name, found, hnamed, hfound, -⟩ := removeFile_cases hremove
      constructor
      · intro htaken
        cases htaken
      · rintro ⟨place, entry, ⟨trail', name', hnamed', -⟩, hdirectory⟩
        cases hnamed.symm.trans hnamed'
        cases hfound.symm.trans hdirectory

/-! ## All ways out -/

section Ways

variable
  (programs : Programs)
  (fs : FileSystem)
  (config : PackagerConfig)
  (root temporary name : String)

theorem runExternal_stays_iff :
    (runExternal programs fs config root temporary name).2.isTaken (Path.join temporary name) =
        true ↔
      Stays fs (Path.join temporary name)
        (Run.of programs fs config.timeoutSeconds
          (command config root (Path.join temporary name))) := by
  simp only [runExternal]
  cases hrun : Run.of programs fs config.timeoutSeconds
      (command config root (Path.join temporary name)) with
  | notStarted fault =>
      constructor
      · exact .notStarted
      · intro hstays
        cases hstays with
        | notStarted hbefore =>
            exact hbefore
  | timedOut left =>
      constructor
      · exact .timedOut
      · intro hstays
        cases hstays with
        | timedOut hleft =>
            exact hleft
  | ended left finish errorOutput =>
      by_cases hwell : finish = .exited 0
      · subst hwell
        cases hread : left.readText (Path.join temporary name) with
        | error fault =>
            simp only [hread, Finish.isSuccess, beq_self_eq_true, if_true]
            constructor
            · exact .unreadable fault hread
            · intro hstays
              cases hstays with
              | unreadable fault hread hleft =>
                  exact hleft
              | directory hfailed hnames hdirectory =>
                  exact absurd rfl hfailed
        | ok content =>
            simp only [hread, Finish.isSuccess, beq_self_eq_true, if_true]
            rw [isTaken_discard_iff]
            constructor
            · rintro ⟨place, entry, hnames, hdirectory⟩
              obtain ⟨fault, hfault⟩ := readText_of_names_directory hnames hdirectory
              cases hread.symm.trans hfault
            · intro hstays
              cases hstays with
              | unreadable fault hfault hleft =>
                  cases hread.symm.trans hfault
              | directory hfailed hnames hdirectory =>
                  exact absurd rfl hfailed
      · have hfails : finish.isSuccess = false := by
          rw [Finish.isSuccess, beq_eq_false_iff_ne]
          exact hwell
        simp only [hfails, Bool.false_eq_true, if_false]
        rw [isTaken_discard_iff]
        constructor
        · rintro ⟨place, entry, hnames, hdirectory⟩
          exact .directory hwell hnames hdirectory
        · intro hstays
          cases hstays with
          | unreadable fault hread hleft =>
              exact absurd rfl hwell
          | directory hfailed hnames hdirectory =>
              exact ⟨_, _, hnames, hdirectory⟩

/-- The files are those that the run leaves, but for what is at the path of the output. -/
theorem runExternal_sameBut :
    let run := Run.of programs fs config.timeoutSeconds
      (command config root (Path.join temporary name))
    SameBut (fun place => ∃ entry, (run.files fs).Names (Path.join temporary name) place entry)
      (run.files fs) (runExternal programs fs config root temporary name).2 := by
  simp only [runExternal]
  cases Run.of programs fs config.timeoutSeconds
      (command config root (Path.join temporary name)) with
  | notStarted fault =>
      exact .refl _ fs
  | timedOut left =>
      exact .refl _ left
  | ended left finish errorOutput =>
      simp only [Run.files]
      split
      · split
        · exact discard_sameBut left _
        · exact .refl _ left
      · exact discard_sameBut left _

variable (read : ReadFile) (files : List FileRecord)

theorem files_package :
    (package programs fs config read root temporary name files).2 =
      (runExternal programs fs config root temporary name).2 := by
  simp only [package]
  split
  · split <;> rfl
  · rfl

theorem exists_text_of_external
    (hexternal : (package programs fs config read root temporary name files).1.method = .external) :
    ∃ text, (runExternal programs fs config root temporary name).1 = .ok text := by
  simp only [package] at hexternal
  cases houtput : (runExternal programs fs config root temporary name).1 with
  | ok text =>
      exact ⟨text, rfl⟩
  | error fault =>
      simp only [houtput, manual] at hexternal
      split at hexternal <;> cases hexternal

end Ways

/--
When a codebase is packaged, something stays at the path that the external program was handed for its
output exactly in these cases: the program was not started and something was there before; it was stopped
at its limit and something was there by then; it ended well and what it left there cannot be read as a
text; or it failed and left a directory there.  So nothing stays if the package is the output of the
program.  Everything else is as the program left it.
-/
theorem scratch_stays_iff
    (programs : Programs)
    (fs : FileSystem)
    (config : PackagerConfig)
    (read : ReadFile)
    (root temporary name : String)
    (files : List FileRecord) :
    let scratch := Path.join temporary name
    let run := Run.of programs fs config.timeoutSeconds (command config root scratch)
    let packed := package programs fs config read root temporary name files
    (packed.2.isTaken scratch = true ↔ Stays fs scratch run) ∧
      (packed.1.method = .external → packed.2.isTaken scratch = false) ∧
      SameBut (fun place => ∃ entry, (run.files fs).Names scratch place entry) (run.files fs)
        packed.2 := by
  intro scratch run packed
  have hstays := runExternal_stays_iff programs fs config root temporary name
  have hfiles : packed.2 = (runExternal programs fs config root temporary name).2 :=
    files_package programs fs config root temporary name read files
  rw [hfiles]
  refine ⟨hstays, ?_, runExternal_sameBut programs fs config root temporary name⟩
  intro hexternal
  obtain ⟨text, htext⟩ :=
    exists_text_of_external programs fs config root temporary name read files hexternal
  obtain ⟨left, errorOutput, hrun, hread⟩ :=
    (runExternal_eq_ok_iff programs fs config root temporary name text).mp htext
  rw [hrun] at hstays
  rw [Bool.eq_false_iff, ne_eq, hstays]
  intro hleft
  cases hleft with
  | unreadable fault hfault htaken =>
      cases hread.symm.trans hfault
  | directory hfailed hnames hdirectory =>
      exact hfailed rfl

/-- A program that writes its output to the path that it is handed, and takes some seconds or never
ends. -/
def packerWriting (output : ByteArray) (duration : Option Nat) : Programs := fun _ =>
  some fun fs command =>
    let path := command.arguments.getD 2 ""
    ⟨(fs.writeBytes path output).toOption.getD fs, "", .exited 0, duration⟩

/-- The files after a project of one file was packaged. -/
def filesAfter (programs : Programs) : FileSystem :=
  (package programs oneFileMachine ⟨"packer", 60, 100⟩ (Project.reading oneFileMachine) "p" "tmp" "1"
    [onlyFile]).2

/-- A copy of the project stays when the program does not end in time, and an output stays when it is no
text.  Nothing was at its path before, and nothing stays of an output that is read. -/
theorem scratch_left_behind :
    oneFileMachine.isTaken "tmp/1" = false ∧
      (filesAfter (packerWriting "print()".toUTF8 none)).readText "tmp/1" = .ok "print()" ∧
      (filesAfter (packerWriting ⟨#[0x70, 0xff]⟩ (some 1))).isTaken "tmp/1" = true ∧
      (filesAfter (packerWriting "print()".toUTF8 (some 1))).isTaken "tmp/1" = false := by
  decide +kernel

end Packaging
end CodeAudit
