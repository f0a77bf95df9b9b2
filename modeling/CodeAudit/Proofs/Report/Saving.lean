import CodeAudit.Proofs.Files.Writing
import CodeAudit.Proofs.Report.Stamp
import CodeAudit.Report.Save

/-!
# Reports saved one after another

A saved report is two files, and the names of the files tell the kind of the report and the second in
which it was saved.  A later report of the same kind that is saved in the same directory and the same
second has the same names, and it takes the place of the earlier one.  So a path of a saved report
holds the text that was written last to the file where the path leads: it is the text of the report
unless a later report has been written there.

**Results.**
* `readText_of_writes`: what is read at a path that was written.
* `name_injective`: what the name of a file tells.
* `saved_texts_kept`: what the paths of saved reports hold, and when it is what was saved.
* `same_second_overwrites`: two reports of one second, of which the first one is lost.
-/

namespace CodeAudit
namespace Report

open FileSystem Entry Json

/-! ## Runs -/

/-- A report that is to be saved. -/
structure Saving where
  directory : String
  stem : String
  /-- The local time. -/
  time : Moment
  value : Value
  page : String

/-- Saves a report on a medium, when the clock of the files has come to a time. -/
def Saving.saveTo
    (saving : Saving)
    (fs : FileSystem)
    (now : Nat)
    (medium : Medium) : Except SaveFault Saved × FileSystem :=
  save { fs with now } saving.directory saving.stem saving.time.stamp saving.value saving.page medium

/-- Reports are saved one after another, each one at any time and on any medium. -/
inductive Saves : FileSystem → List (Saving × Saved) → FileSystem → Prop
  | nil (fs : FileSystem) : Saves fs [] fs
  | cons
      {fs next last : FileSystem}
      {saving : Saving}
      {saved : Saved}
      {rest : List (Saving × Saved)}
      (now : Nat)
      (medium : Medium)
      (hsave : saving.saveTo fs now medium = (.ok saved, next))
      (hrest : Saves next rest last) :
      Saves fs ((saving, saved) :: rest) last

/-- What a run writes, path by path. -/
def writesOf (run : List (Saving × Saved)) : List (String × String) :=
  run.flatMap fun (saving, saved) =>
    [(saved.jsonPath, saving.value.pretty), (saved.markdownPath, saving.page)]

/-- Texts are written one after another; directories may be made before each one. -/
inductive Writes : FileSystem → List (String × String) → FileSystem → Prop
  | done
      {fs last : FileSystem}
      (hextends : Extends (fun _ => False) fs last) :
      Writes fs [] last
  | write
      {fs made next last : FileSystem}
      {path text : String}
      {rest : List (String × String)}
      (hextends : Extends (fun _ => False) fs made)
      (hwrite : made.writeText path text = .ok next)
      (hrest : Writes next rest last) :
      Writes fs ((path, text) :: rest) last

/-- The text of a file after later writes, some of which may go to its place. -/
def latest
    (fs : FileSystem)
    (place : List String)
    (text : String)
    (later : List (String × String)) : String :=
  later.foldl (fun text write => if fs.realPath? write.1 = some place then write.2 else text) text

section Runs

variable {fs last : FileSystem} {path text : String}

/-- A file that was written without a fault was written whole. -/
theorem writeText_of_writePart
    {medium : Medium}
    {next : FileSystem}
    (hpart : writePart medium fs path text = (.ok (), next)) :
    fs.writeText path text = .ok next := by
  unfold writePart at hpart
  rcases writeOn_cases medium fs path text.toUTF8 with
    ⟨fault, -, hon⟩ | ⟨later, hwrite, hon⟩ | ⟨stop, later, -, -, hon⟩
  · rw [hon] at hpart
    cases hpart
  · rw [hon] at hpart
    cases hpart
    exact hwrite
  · rw [hon] at hpart
    cases hpart

/-- A report is saved by making its directory and writing its two files. -/
theorem save_ok
    {directory stem stamp page : String}
    {value : Value}
    {medium : Medium}
    {saved : Saved}
    {next : FileSystem}
    (hsave : save fs directory stem stamp value page medium = (.ok saved, next)) :
    ∃ made written, fs.makeDirectories directory = .ok made ∧
      made.writeText saved.jsonPath value.pretty = .ok written ∧
      written.writeText saved.markdownPath page = .ok next := by
  unfold save at hsave
  split at hsave
  · cases hsave
  · next made hmake =>
    simp only at hsave
    split at hsave
    · cases hsave
    · next written hwrite =>
      split at hsave
      · cases hsave
      · next finished hfinish =>
        cases hsave
        exact ⟨made, written, hmake, writeText_of_writePart hwrite,
          writeText_of_writePart hfinish⟩

/-- Saving reports writes their texts. -/
theorem writes_of_saves
    {run : List (Saving × Saved)}
    (hrun : Saves fs run last) :
    Writes fs (writesOf run) last := by
  induction hrun with
  | nil fs =>
      exact .done (.refl _ fs)
  | @cons fs next last saving saved rest now medium hsave _ ih =>
      obtain ⟨made, written, hmake, hjson, hmarkdown⟩ := save_ok hsave
      have hclock : Extends (fun _ => False) fs { fs with now } := ⟨rfl, .refl _ _⟩
      exact .write (hclock.trans (makeDirectories_extends hmake)) hjson
        (.write (.refl _ written) hmarkdown ih)

theorem extends_of_writes
    {writes : List (String × String)}
    (hwrites : Writes fs writes last) :
    Extends (fun _ => True) fs last := by
  induction hwrites with
  | done hextends =>
      exact hextends.mono fun _ => False.elim
  | write hextends hwrite _ ih =>
      obtain ⟨place, hwritten, -⟩ := writeText_extends hwrite
      exact ((hextends.mono fun _ => False.elim).trans (hwritten.mono fun _ _ => trivial)).trans ih

/-- A file that is not written stays. -/
theorem file_of_extends
    {written : List String → Prop}
    {later : FileSystem}
    {place : List String}
    {content : ByteArray}
    {time : Nat}
    (hextends : Extends written fs later)
    (hfile : at? place fs.root = some (.file content time))
    (hplace : ¬ written place) :
    at? place later.root = some (.file content time) := by
  obtain ⟨grown, hgrown, hkept⟩ := hextends.grows place _ hfile
  cases hkept with
  | file =>
      exact hgrown
  | rewritten _ _ _ _ hwritten =>
      exact absurd hwritten hplace

/-- A file holds the text that was written last to its place. -/
theorem file_of_writes
    {writes : List (String × String)}
    (hwrites : Writes fs writes last)
    {place : List String}
    {time : Nat}
    (hfile : at? place fs.root = some (.file text.toUTF8 time)) :
    ∃ time', at? place last.root = some (.file (latest last place text writes).toUTF8 time') := by
  induction hwrites generalizing text time with
  | done hextends =>
      exact ⟨time, file_of_extends hextends hfile id⟩
  | @write fs made next last path added rest hextends hwrite hrest ih =>
      have hmade := file_of_extends hextends hfile id
      obtain ⟨target, hwritten, hreal, htarget⟩ := writeText_extends hwrite
      have hlast := realPath?_of_extends (extends_of_writes hrest) hreal
      rw [latest, List.foldl_cons, hlast]
      by_cases hsame : target = place
      · rw [if_pos (congrArg some hsame)]
        rw [hsame] at htarget
        exact ih htarget
      · rw [if_neg (fun heq => hsame (Option.some.inj heq))]
        exact ih (file_of_extends hwritten hmade (fun heq => hsame heq.symm))

/-- At a path that was written is the text that was written last to its place. -/
theorem readText_of_writes
    {before after : List (String × String)}
    (hwrites : Writes fs (before ++ (path, text) :: after) last) :
    ∃ place, last.realPath? path = some place ∧
      last.readText path = .ok (latest last place text after) := by
  induction before generalizing fs with
  | nil =>
      cases hwrites with
      | write hextends hwrite hrest =>
          obtain ⟨place, -, hreal, hfile⟩ := writeText_extends hwrite
          have hlast := realPath?_of_extends (extends_of_writes hrest) hreal
          obtain ⟨time, hkept⟩ := file_of_writes hrest hfile
          exact ⟨place, hlast, readText_of_realPath? hlast hkept⟩
  | cons first before ih =>
      cases hwrites with
      | write hextends hwrite hrest =>
          exact ih hrest

theorem latest_eq_self
    {place : List String}
    {later : List (String × String)}
    (hapart : ∀ write ∈ later, last.realPath? write.1 ≠ some place) :
    latest last place text later = text := by
  induction later with
  | nil =>
      rfl
  | cons write later ih =>
      rw [latest, List.foldl_cons, if_neg (hapart write List.mem_cons_self)]
      exact ih fun other hother => hapart other (List.mem_cons_of_mem _ hother)

end Runs

/-! ## Names -/

/-- The name of a file of a report. -/
def Saving.name (saving : Saving) (ending : String) : String :=
  saving.stem ++ "_" ++ saving.time.stamp ++ ending

/-- Where a directory is; an empty path is the working directory. -/
def folder? (fs : FileSystem) (directory : String) : Option (List String) :=
  match fs.reach (fs.start directory ++ Path.steps directory) with
  | .arrived trail => some (trailNames trail)
  | _ => none

/-- The files of a report are in its directory, under its names, and not somewhere else through links. -/
structure InFolder (fs : FileSystem) (saving : Saving) (saved : Saved) : Prop where
  json : fs.realPath? saved.jsonPath =
    (folder? fs saving.directory).map (· ++ [saving.name ".json"])
  markdown : fs.realPath? saved.markdownPath =
    (folder? fs saving.directory).map (· ++ [saving.name ".md"])

/-- Two reports of one kind that go to one directory are of different seconds. -/
def Apart (fs : FileSystem) (a b : Saving) : Prop :=
  a.stem = b.stem → folder? fs a.directory = folder? fs b.directory →
    a.time.seconds ≠ b.time.seconds

section Names

/-- What stands on both sides of the last one of a character. -/
theorem eq_of_append_cons_eq
    {c : Char}
    {front back front' back' : List Char}
    (hback : c ∉ back)
    (hback' : c ∉ back')
    (heq : front ++ c :: back = front' ++ c :: back') :
    front = front' ∧ back = back' := by
  rcases List.append_eq_append_iff.mp heq with ⟨more, hfront, hrest⟩ | ⟨more, hfront, hrest⟩
  · cases more with
    | nil =>
        exact ⟨by simpa using hfront.symm, (List.cons.inj hrest).2⟩
    | cons d more =>
        obtain ⟨rfl, hmore⟩ := List.cons.inj hrest
        exact absurd (hmore ▸ List.mem_append_right more List.mem_cons_self) hback
  · cases more with
    | nil =>
        exact ⟨by simpa using hfront, (List.cons.inj hrest).2.symm⟩
    | cons d more =>
        obtain ⟨rfl, hmore⟩ := List.cons.inj hrest
        exact absurd (hmore ▸ List.mem_append_right more List.mem_cons_self) hback'

theorem append_bars
    (stem date time ending : List Char) :
    stem ++ ['_'] ++ (date ++ '_' :: time) ++ ending =
      stem ++ '_' :: date ++ '_' :: time ++ ending := by
  simp only [List.append_assoc, List.cons_append, List.nil_append]

theorem toList_name
    (saving : Saving)
    (ending : String) :
    (saving.name ending).toList =
      saving.stem.toList ++ '_' :: saving.time.dateDigits ++ '_' :: saving.time.timeDigits
        ++ ending.toList := by
  have hbar : "_".toList = ['_'] := by decide
  rw [← append_bars, Saving.name, String.toList_append, String.toList_append,
    String.toList_append, Moment.toList_stamp, hbar]

/-- The name of a file tells the kind of its report and the second. -/
theorem name_injective
    {a b : Saving}
    {ending : String}
    (hname : a.name ending = b.name ending) :
    a.stem = b.stem ∧ a.time.seconds = b.time.seconds := by
  have hlist := congrArg String.toList hname
  rw [toList_name, toList_name] at hlist
  have hstamped := List.append_cancel_right hlist
  have hlength : ('_' :: a.time.timeDigits).length = ('_' :: b.time.timeDigits).length := by
    rw [List.length_cons, List.length_cons, Moment.length_timeDigits, Moment.length_timeDigits]
  obtain ⟨hdated, htime⟩ := List.append_inj' hstamped hlength
  obtain ⟨hstem, hdate⟩ := eq_of_append_cons_eq a.time.underscore_not_mem_dateDigits
    b.time.underscore_not_mem_dateDigits hdated
  exact ⟨String.toList_inj.mp hstem,
    Moment.seconds_eq_of_digits hdate (List.cons.inj htime).2⟩

/-- The two files of a report, and those of any two reports, differ in how their names end. -/
theorem name_json_ne_name_markdown
    (a b : Saving) :
    a.name ".json" ≠ b.name ".md" := by
  intro hname
  have hlast := congrArg (fun name => name.toList.getLast?) hname
  have hjson : ".json".toList.getLast? = some 'n' := by decide
  have hmarkdown : ".md".toList.getLast? = some 'd' := by decide
  simp only [toList_name, List.getLast?_append, hjson, hmarkdown, Option.some_or] at hlast
  exact absurd hlast (by decide)

end Names

section Apart

variable {last : FileSystem}

theorem ne_of_inFolder
    {place place' : Option (List String)}
    {a b : Saving}
    {ending ending' : String}
    (hplace : place = (folder? last a.directory).map (· ++ [a.name ending]))
    (hplace' : place' = (folder? last b.directory).map (· ++ [b.name ending']))
    (hapart : folder? last a.directory = folder? last b.directory → a.name ending ≠ b.name ending')
    {target : List String}
    (htarget : place = some target) :
    place' ≠ some target := by
  intro htarget'
  rw [htarget] at hplace
  rw [htarget'] at hplace'
  obtain ⟨above, habove, rfl⟩ := Option.map_eq_some_iff.mp hplace.symm
  obtain ⟨above', habove', heq⟩ := Option.map_eq_some_iff.mp hplace'.symm
  obtain ⟨rfl, hname⟩ := List.append_inj' heq (by rw [List.length_singleton, List.length_singleton])
  exact hapart (habove.trans habove'.symm) (List.singleton_inj.mp hname.symm)

/-- The places of two files of apart reports, or of the two files of one report, are different. -/
theorem realPath?_ne
    {a b : Saving}
    {saved saved' : Saved}
    (ha : InFolder last a saved)
    (hb : InFolder last b saved')
    (hapart : Apart last a b)
    {path path' : String}
    (hpath : path = saved.jsonPath ∨ path = saved.markdownPath)
    (hpath' : path' = saved'.jsonPath ∨ path' = saved'.markdownPath)
    {place : List String}
    (hplace : last.realPath? path = some place) :
    last.realPath? path' ≠ some place := by
  have hname : ∀ ending, folder? last a.directory = folder? last b.directory →
      a.name ending ≠ b.name ending := by
    intro ending hfolder hname
    obtain ⟨hstem, hseconds⟩ := name_injective hname
    exact hapart hstem hfolder hseconds
  rcases hpath with rfl | rfl <;> rcases hpath' with rfl | rfl
  · exact ne_of_inFolder ha.json hb.json (hname ".json") hplace
  · exact ne_of_inFolder ha.json hb.markdown (fun _ => name_json_ne_name_markdown a b) hplace
  · exact ne_of_inFolder ha.markdown hb.json
      (fun _ => (name_json_ne_name_markdown b a).symm) hplace
  · exact ne_of_inFolder ha.markdown hb.markdown (hname ".md") hplace

theorem exists_of_mem_writesOf
    {run : List (Saving × Saved)}
    {write : String × String}
    (hwrite : write ∈ writesOf run) :
    ∃ call ∈ run, write.1 = call.2.jsonPath ∨ write.1 = call.2.markdownPath := by
  obtain ⟨call, hcall, hwrite⟩ := List.mem_flatMap.mp hwrite
  refine ⟨call, hcall, ?_⟩
  rcases List.mem_cons.mp hwrite with rfl | hwrite
  · exact .inl rfl
  · obtain rfl := List.mem_singleton.mp hwrite
    exact .inr rfl

/-- Reports that are apart keep their texts. -/
theorem readText_of_apart
    {fs : FileSystem}
    {before after : List (Saving × Saved)}
    {saving : Saving}
    {saved : Saved}
    (hwrites : Writes fs (writesOf (before ++ (saving, saved) :: after)) last)
    (hin : ∀ call ∈ (saving, saved) :: after, InFolder last call.1 call.2)
    (hapart : ∀ call ∈ after, Apart last saving call.1) :
    last.readText saved.jsonPath = .ok saving.value.pretty ∧
      last.readText saved.markdownPath = .ok saving.page := by
  have hself := hin _ List.mem_cons_self
  have hlater : ∀ {path place}, path = saved.jsonPath ∨ path = saved.markdownPath →
      last.realPath? path = some place →
      ∀ write ∈ writesOf after, last.realPath? write.1 ≠ some place := by
    intro path place hpath hplace write hwrite
    obtain ⟨call, hcall, hpath'⟩ := exists_of_mem_writesOf hwrite
    exact realPath?_ne hself (hin call (List.mem_cons_of_mem _ hcall)) (hapart call hcall) hpath
      hpath' hplace
  have hsplit : writesOf (before ++ (saving, saved) :: after) =
      writesOf before ++ (saved.jsonPath, saving.value.pretty)
        :: (saved.markdownPath, saving.page) :: writesOf after := by
    simp [writesOf]
  rw [hsplit] at hwrites
  constructor
  · obtain ⟨place, hplace, hread⟩ := readText_of_writes hwrites
    rw [hread, latest_eq_self]
    intro write hwrite
    rcases List.mem_cons.mp hwrite with rfl | hwrite
    · exact ne_of_inFolder hself.json hself.markdown
        (fun _ => name_json_ne_name_markdown saving saving) hplace
    · exact hlater (.inl rfl) hplace write hwrite
  · rw [List.append_cons] at hwrites
    obtain ⟨place, hplace, hread⟩ := readText_of_writes hwrites
    rw [hread, latest_eq_self (hlater (.inr rfl) hplace)]

end Apart

/--
What the paths of saved reports hold after a run.

Every path that a run returned leads to a place, and there is the text that the run wrote last to this
place: the text of its report, unless the path of a later write leads to the same place.  If all files
are in the directories of their reports, and no two reports of one kind were saved in one directory and
in one second of local time, then every path holds what its report was saved with.
-/
theorem saved_texts_kept
    {fs last : FileSystem}
    {run : List (Saving × Saved)}
    (hrun : Saves fs run last) :
    (∀ before path text after, writesOf run = before ++ (path, text) :: after →
      ∃ place, last.realPath? path = some place ∧
        last.readText path = .ok (latest last place text after)) ∧
    ((∀ call ∈ run, InFolder last call.1 call.2) →
      run.Pairwise (fun a b => Apart last a.1 b.1) →
      ∀ call ∈ run,
        last.readText call.2.jsonPath = .ok call.1.value.pretty ∧
          last.readText call.2.markdownPath = .ok call.1.page) := by
  have hwrites := writes_of_saves hrun
  refine ⟨?_, ?_⟩
  · intro before path text after hsplit
    rw [hsplit] at hwrites
    exact readText_of_writes hwrites
  · intro hin hapart call hcall
    obtain ⟨before, after, rfl⟩ := List.append_of_mem hcall
    have hrest := (List.pairwise_append.mp hapart).2.1
    refine readText_of_apart hwrites (fun other hother => hin other ?_)
      (fun _ => List.rel_of_pairwise_cons hrest)
    exact List.mem_append_right before hother

/-- A machine with an empty directory for reports. -/
def reportMachine : FileSystem where
  root := .directory [("out", .directory [])]
  current := []
  now := 0

/-- A report of the first minute of 1970. -/
def sampleSaving (second : Nat) (page : String) : Saving where
  directory := "/out"
  stem := "security_scan"
  time := ⟨second, 0⟩
  value := .object []
  page := page

/-- Where such a report is saved. -/
def sampleSaved (stamp : String) : Saved where
  jsonPath := "/out/security_scan_" ++ stamp ++ ".json"
  markdownPath := "/out/security_scan_" ++ stamp ++ ".md"

/-- Of two reports of different seconds both are kept. -/
theorem two_seconds_keep_both :
    let first := (sampleSaving 0 "one", sampleSaved "19700101_000000")
    let second := (sampleSaving 1 "two", sampleSaved "19700101_000001")
    ∃ last, Saves reportMachine [first, second] last ∧
      (∀ call ∈ [first, second], InFolder last call.1 call.2) ∧
      [first, second].Pairwise (fun a b => Apart last a.1 b.1) ∧
      last.readText "/out/security_scan_19700101_000000.md" = .ok "one" ∧
      last.readText "/out/security_scan_19700101_000001.md" = .ok "two" := by
  intro first second
  let next := (first.1.saveTo reportMachine 0 .sound).2
  let last := (second.1.saveTo next 1 .sound).2
  have hfirst : first.1.saveTo reportMachine 0 .sound = (.ok first.2, next) :=
    Prod.ext (by decide +kernel) rfl
  have hsecond : second.1.saveTo next 1 .sound = (.ok second.2, last) :=
    Prod.ext (by decide +kernel) rfl
  have hrun : Saves reportMachine [first, second] last :=
    .cons 0 .sound hfirst (.cons 1 .sound hsecond (.nil last))
  have hplaces : ∀ call ∈ [first, second],
      last.realPath? call.2.jsonPath =
          (folder? last call.1.directory).map (· ++ [call.1.name ".json"]) ∧
        last.realPath? call.2.markdownPath =
          (folder? last call.1.directory).map (· ++ [call.1.name ".md"]) := by
    decide +kernel
  have hin : ∀ call ∈ [first, second], InFolder last call.1 call.2 :=
    fun call hcall => ⟨(hplaces call hcall).1, (hplaces call hcall).2⟩
  have hapart : [first, second].Pairwise (fun a b => Apart last a.1 b.1) := by
    refine List.pairwise_pair.mpr ?_
    intro _ _
    decide
  have hkept := (saved_texts_kept hrun).2 hin hapart
  have hone := (hkept first (List.mem_cons_self)).2
  have htwo := (hkept second (List.mem_cons_of_mem _ (List.mem_singleton_self _))).2
  exact ⟨last, hrun, hin, hapart, hone, htwo⟩

/-- Of two reports of one second the first one is lost. -/
theorem same_second_overwrites :
    let first := sampleSaving 0 "one"
    let second := sampleSaving 0 "two"
    let saved := sampleSaved "19700101_000000"
    ∃ last, Saves reportMachine [(first, saved), (second, saved)] last ∧
      first.time.seconds ≤ second.time.seconds ∧
      last.readText saved.markdownPath ≠ .ok first.page := by
  intro first second saved
  let next := (first.saveTo reportMachine 0 .sound).2
  let last := (second.saveTo next 0 .sound).2
  have hfirst : first.saveTo reportMachine 0 .sound = (.ok saved, next) :=
    Prod.ext (by decide +kernel) rfl
  have hsecond : second.saveTo next 0 .sound = (.ok saved, last) :=
    Prod.ext (by decide +kernel) rfl
  have hrun : Saves reportMachine [(first, saved), (second, saved)] last :=
    .cons 0 .sound hfirst (.cons 0 .sound hsecond (.nil last))
  refine ⟨last, hrun, Nat.le_refl _, ?_⟩
  have hsplit : writesOf [(first, saved), (second, saved)] =
      [(saved.jsonPath, first.value.pretty), (saved.markdownPath, first.page),
        (saved.jsonPath, second.value.pretty)] ++ (saved.markdownPath, second.page) :: [] := rfl
  have hwrites := writes_of_saves hrun
  rw [hsplit] at hwrites
  obtain ⟨place, -, hread⟩ := readText_of_writes hwrites
  rw [hread, latest, List.foldl_nil]
  intro hsame
  have htexts : "two" = "one" := Except.ok.inj hsame
  exact absurd htexts (by decide)

end Report
end CodeAudit
