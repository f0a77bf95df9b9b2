import CodeAudit.Project.Audit
import CodeAudit.Proofs.Text.Cutting
import Mathlib.Data.List.Basic

/-!
# What a package holds

A package is the output of the external program or the bundle of the built-in packager.  The output
is used if the program ends well in time and leaves a text that can be read and is not blank; then
the package is the longest beginning of it within the budget.  In every other case the package is the
bundle, and all it depends on is how the listed files read after the program has run.  Neither has
more characters than the budget allows.

**Results.**
* `isLongestWithin_fit`: what is left of an output.
* `length_appendParts_le`, `length_manual_le`: the budget of the built-in packager.
* `package_of_yields`, `package_of_no_yield`: which of the two a package is.
* `package_within_budget`: all of it.
-/

namespace CodeAudit

namespace Text

theorem isBlankText_eq_false_iff
    {text : String} :
    isBlankText text = false ↔ ∃ c ∈ text.toList, isBlank c = false := by
  simp [isBlankText]

end Text

namespace Packaging

/-! ## The budget -/

/-- A text is the longest beginning of another one with at most a number of characters. -/
structure IsLongestWithin
    (limit : Nat)
    (beginning text : String) : Prop where
  begins : beginning.toList <+: text.toList
  fits : beginning.length ≤ limit
  longest : ∀ other, other <+: text.toList → other.length ≤ limit → other <+: beginning.toList

theorem isLongestWithin_cut
    (limit : Nat)
    (text : String) :
    IsLongestWithin limit (Text.cut text limit) text where
  begins := by
    rw [Text.toList_cut]
    exact List.take_prefix limit text.toList
  fits := by
    rw [Text.length_cut]
    exact Nat.min_le_left limit text.length
  longest := by
    intro other hbegins hfits
    rw [Text.toList_cut]
    exact List.prefix_take_iff.mpr ⟨hbegins, hfits⟩

/-- A text that fits is its own longest beginning; any other one is cut. -/
theorem isLongestWithin_fit
    (limit : Nat)
    (text : String) :
    IsLongestWithin limit (fit limit text).1 text ∧
      ((fit limit text).2 = true ↔ limit < text.length) := by
  by_cases hfits : text.length ≤ limit
  · have hfit : fit limit text = (text, false) := by
      rw [fit, if_pos hfits]
    rw [hfit]
    refine ⟨⟨List.prefix_rfl, hfits, fun _ hbegins _ => hbegins⟩, ?_⟩
    simpa using hfits
  · have hfit : fit limit text = (Text.cut text limit, true) := by
      rw [fit, if_neg hfits]
    rw [hfit]
    refine ⟨isLongestWithin_cut limit text, ?_⟩
    simpa using hfits

/-- Parts are appended within what is left of the budget. -/
theorem length_appendParts_le
    {budget used : Nat}
    (hused : used ≤ budget)
    (parts : List (String × String)) :
    used + (appendParts budget used parts).1.length ≤ budget := by
  induction parts generalizing used with
  | nil =>
      simpa [appendParts] using hused
  | cons part rest ih =>
      obtain ⟨heading, body⟩ := part
      simp only [appendParts]
      by_cases hfull : budget < used + (heading.length + body.length)
      · rw [if_pos hfull]
        by_cases hroom : 0 < budget - (used + heading.length)
        · -- The heading is there and the body fills exactly the room behind it.
          rw [if_pos hroom, String.length_append, Text.length_cut]
          omega
        · rw [if_neg hroom]
          simpa using hused
      · rw [if_neg hfull]
        have hrest := ih (Nat.not_lt.mp hfull)
        simp only [String.length_append]
        omega

/-- The bundle of the built-in packager keeps to the budget, whatever the listing takes of it. -/
theorem length_manual_le
    (budget : Nat)
    (read : ReadFile)
    (files : List FileRecord) :
    (manual budget read files).content.length ≤ budget := by
  simp only [manual]
  by_cases hlisting : budget < (listing files).length
  · rw [if_pos hlisting]
    exact (isLongestWithin_fit budget _).1.fits
  · rw [if_neg hlisting, String.length_append]
    exact length_appendParts_le (Nat.not_lt.mp hlisting) _

/-- The bundle depends on the listed files alone. -/
theorem manual_congr
    {read read' : ReadFile}
    {files : List FileRecord}
    (hread : ∀ file ∈ files, read file = read' file)
    (budget : Nat) :
    manual budget read files = manual budget read' files := by
  have hparts : parts read files = parts read' files := by
    apply List.filterMap_congr
    intro file hfile
    rw [hread file hfile]
  simp only [manual, hparts]

/-! ## The external program -/

section External

variable
  (programs : Programs)
  (fs : FileSystem)
  (config : PackagerConfig)
  (root temporary name : String)

/-- The external program ends well within its limit and leaves a text that can be read and is not
blank. -/
def Yields
    (text : String) : Prop :=
  ∃ left errorOutput,
    Run.of programs fs config.timeoutSeconds (command config root (Path.join temporary name)) =
        .ended left (.exited 0) errorOutput ∧
      left.readText (Path.join temporary name) = .ok text ∧
      ∃ c ∈ text.toList, Text.isBlank c = false

theorem runExternal_eq_ok_iff
    (text : String) :
    (runExternal programs fs config root temporary name).1 = .ok text ↔
      ∃ left errorOutput,
        Run.of programs fs config.timeoutSeconds
            (command config root (Path.join temporary name)) =
          .ended left (.exited 0) errorOutput ∧
        left.readText (Path.join temporary name) = .ok text := by
  simp only [runExternal]
  cases hrun : Run.of programs fs config.timeoutSeconds
      (command config root (Path.join temporary name)) with
  | notStarted fault =>
      simp
  | timedOut left =>
      simp
  | ended left finish errorOutput =>
      by_cases hwell : finish = .exited 0
      · subst hwell
        cases hread : left.readText (Path.join temporary name) with
        | error fault =>
            simp [Finish.isSuccess, hread]
        | ok content =>
            simp [Finish.isSuccess, hread]
      · simp [Finish.isSuccess, hwell]

theorem yields_iff
    (text : String) :
    Yields programs fs config root temporary name text ↔
      (runExternal programs fs config root temporary name).1 = .ok text ∧
        Text.isBlankText text = false := by
  rw [runExternal_eq_ok_iff, Text.isBlankText_eq_false_iff]
  constructor
  · rintro ⟨left, errorOutput, hrun, hread, hvisible⟩
    exact ⟨⟨left, errorOutput, hrun, hread⟩, hvisible⟩
  · rintro ⟨⟨left, errorOutput, hrun, hread⟩, hvisible⟩
    exact ⟨left, errorOutput, hrun, hread, hvisible⟩

variable (read : ReadFile) (files : List FileRecord)

theorem package_of_yields
    {text : String}
    (hyields : Yields programs fs config root temporary name text) :
    (package programs fs config read root temporary name files).1 =
      ⟨(fit config.maxContextChars text).1, .external, (fit config.maxContextChars text).2⟩ := by
  obtain ⟨houtput, hvisible⟩ := (yields_iff programs fs config root temporary name text).mp hyields
  simp only [package, houtput, hvisible, Bool.false_eq_true, if_false]

theorem package_of_no_yield
    (hnone : ¬ ∃ text, Yields programs fs config root temporary name text) :
    (package programs fs config read root temporary name files).1 =
      manual config.maxContextChars read files := by
  simp only [package]
  cases houtput : (runExternal programs fs config root temporary name).1 with
  | error fault =>
      rfl
  | ok text =>
      cases hblank : Text.isBlankText text with
      | true =>
          simp [hblank]
      | false =>
          exact absurd ⟨text, (yields_iff programs fs config root temporary name text).mpr
            ⟨houtput, hblank⟩⟩ hnone

end External

/--
A package has at most as many characters as the budget allows.  It is of the external program if and
only if that program ends well in time and leaves a text that can be read and is not blank; then it
is the longest beginning of this text within the budget, cut if the text is longer.  In every other
case it is the bundle of the built-in packager, which reads the listed files as the program leaves
them: if the program leaves them alone, nothing of what it did is in the package.
-/
theorem package_within_budget
    (programs : Programs)
    (fs : FileSystem)
    (config : PackagerConfig)
    (root temporary name : String)
    (files : List FileRecord) :
    let left := (runExternal programs fs config root temporary name).2
    let packed := (package programs fs config (Project.reading left) root temporary name files).1
    packed.content.length ≤ config.maxContextChars ∧
      (packed.method = .external ↔
        ∃ text, Yields programs fs config root temporary name text) ∧
      (∀ text, Yields programs fs config root temporary name text →
        IsLongestWithin config.maxContextChars packed.content text ∧
          (packed.truncated = true ↔ config.maxContextChars < text.length)) ∧
      ((¬ ∃ text, Yields programs fs config root temporary name text) →
        packed = manual config.maxContextChars (Project.reading left) files ∧
          ((∀ file ∈ files, Project.reading left file = Project.reading fs file) →
            packed = manual config.maxContextChars (Project.reading fs) files)) := by
  intro left packed
  have hyield : ∀ text, Yields programs fs config root temporary name text →
      packed = ⟨(fit config.maxContextChars text).1, .external,
        (fit config.maxContextChars text).2⟩ :=
    fun text hyields => package_of_yields programs fs config root temporary name _ files hyields
  have hfallback : (¬ ∃ text, Yields programs fs config root temporary name text) →
      packed = manual config.maxContextChars (Project.reading left) files :=
    package_of_no_yield programs fs config root temporary name _ files
  have hmanual : (manual config.maxContextChars (Project.reading left) files).method = .manual := by
    simp only [manual]
    split <;> rfl
  refine ⟨?_, ?_, ?_, ?_⟩
  · by_cases hsome : ∃ text, Yields programs fs config root temporary name text
    · obtain ⟨text, htext⟩ := hsome
      rw [hyield text htext]
      exact (isLongestWithin_fit config.maxContextChars text).1.fits
    · rw [hfallback hsome]
      exact length_manual_le _ _ _
  · constructor
    · intro hexternal
      by_cases hsome : ∃ text, Yields programs fs config root temporary name text
      · exact hsome
      · rw [hfallback hsome, hmanual] at hexternal
        cases hexternal
    · rintro ⟨text, htext⟩
      rw [hyield text htext]
  · intro text htext
    rw [hyield text htext]
    exact isLongestWithin_fit config.maxContextChars text
  · intro hnone
    refine ⟨hfallback hnone, fun hread => ?_⟩
    rw [hfallback hnone]
    exact manual_congr hread _

/-- A machine with a project of one file. -/
def oneFileMachine : FileSystem where
  root := .directory
    [("p", .directory [("a.py", .file "print()".toUTF8 0)]), ("tmp", .directory [])]
  current := []
  now := 0

/-- The file of this project. -/
def onlyFile : FileRecord := ⟨"p/a.py", "a.py", 7, some "py", some "Python"⟩

/-- A program that leaves an output and ends as given. -/
def packerEnding (finish : Finish) : Programs := fun _ =>
  some fun fs _ => ⟨fs.place "tmp" "1" (.file "naïve code".toUTF8 0), "", finish, some 1⟩

/-- The package of this project within a budget. -/
def packedWithin (finish : Finish) (limit : Nat) : Package :=
  let config : PackagerConfig := ⟨"packer", 60, limit⟩
  let left := (runExternal (packerEnding finish) oneFileMachine config "p" "tmp" "1").2
  (package (packerEnding finish) oneFileMachine config (Project.reading left) "p" "tmp" "1"
    [onlyFile]).1

/-- An output is cut to five characters, not bytes, and the same output of a program that fails is
left out. -/
theorem output_of_failure_left_out :
    packedWithin (.exited 0) 5 = ⟨"naïve", .external, true⟩ ∧
      IsLongestWithin 5 (packedWithin (.exited 0) 5).content "naïve code" ∧
      packedWithin (.exited 1) 100 = manual 100 (Project.reading oneFileMachine) [onlyFile] ∧
      (packedWithin (.exited 1) 100).truncated = false := by
  obtain ⟨-, -, houtput, -⟩ := package_within_budget (packerEnding (.exited 0)) oneFileMachine
    ⟨"packer", 60, 5⟩ "p" "tmp" "1" [onlyFile]
  obtain ⟨-, -, -, hfallback⟩ := package_within_budget (packerEnding (.exited 1)) oneFileMachine
    ⟨"packer", 60, 100⟩ "p" "tmp" "1" [onlyFile]
  have hvisible : ∃ c ∈ "naïve code".toList, Text.isBlank c = false :=
    Text.isBlankText_eq_false_iff.mp (by decide +kernel)
  refine ⟨by decide +kernel, ?_, ?_, by decide +kernel⟩
  · exact (houtput "naïve code" ⟨_, _, rfl, rfl, hvisible⟩).1
  · refine (hfallback ?_).2 ?_
    · rintro ⟨text, left, errorOutput, hrun, -⟩
      have hfails : Run.of (packerEnding (.exited 1)) oneFileMachine 60
          (command ⟨"packer", 60, 100⟩ "p" (Path.join "tmp" "1")) =
            .ended (oneFileMachine.place "tmp" "1" (.file "naïve code".toUTF8 0)) (.exited 1) "" := by
        rfl
      cases hfails.symm.trans hrun
    · intro file hfile
      obtain rfl := List.mem_singleton.mp hfile
      decide +kernel

end Packaging
end CodeAudit
