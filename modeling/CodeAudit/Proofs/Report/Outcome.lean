import CodeAudit.Proofs.Files.Untouched
import CodeAudit.Proofs.Report.Saving

/-!
# How saving a report ends

A report is saved in three steps: its directory is made, and then its two files are written.  Each step
can fail, and what was done before stays.  So a report that cannot be saved may leave directories
behind, and if only its page cannot be written, the file with its JSON text.  A file that was opened may
also be written in part, when the medium stops the write; then it holds the bytes that were written.

What a step touches is known from the files: the directories that are missing on the way, and the
places to which the two paths lead.  These places are in the directory unless a link stands there under
one of the two names.

**Results.**
* `exists_folder_of_write`: where a file of a report is written.
* `partEnds_writePart`: the three ways in which writing one file ends.
* `save_ends`: the six ways in which saving ends, and what was touched in each of them.
* `save_leaves_parts`: three of them, in which more is left than two files or nothing.
-/

namespace CodeAudit
namespace Report

open FileSystem Entry Json

/-- Under these names there is no link. -/
def Unlinked (fs : FileSystem) (place : List String) : Prop :=
  ∀ target, at? place fs.root ≠ some (.link target)

/-- The directory of a report was made as far as it was missing. -/
structure Prepared
    (fs : FileSystem)
    (directory : String)
    (made : FileSystem) : Prop where
  done : fs.makeDirectories directory = .ok made
  /-- Only directories were made, and all of them on the way to the directory. -/
  same : SameBut (MadeFor (directory :: Path.above directory) fs made) fs made
  there : fs.hasDirectory directory = true → made = fs

/-- One file of a report was written to a place, after its directory was made. -/
structure PartAt
    (made last : FileSystem)
    (directory name : String)
    (place : List String) : Prop where
  leads : last.realPath? (Path.join directory name) = some place
  /-- It took the place of a file or of nothing. -/
  replaced : ∀ old, at? place made.root = some old → ∃ content time, old = .file content time
  /-- The place is in the directory unless a link is in the way. -/
  inside : Path.IsFileName name → ∃ folder, folder? made directory = some folder ∧
    (Unlinked made (folder ++ [name]) → place = folder ++ [name])

/-- Both files of a report were opened after its directory was made; the first one was written whole, and
nothing else was touched. -/
structure TwoParts
    (made last : FileSystem)
    (directory stem json : String)
    (place place' : List String) : Prop where
  same : SameBut (fun touched => touched = place ∨ touched = place') made last
  first : PartAt made last directory (stem ++ ".json") place
  second : PartAt made last directory (stem ++ ".md") place'
  firstText : place ≠ place' → last.readText (Path.join directory (stem ++ ".json")) = .ok json

/-- The ways in which saving a report on a medium ends; `stem` is what its two names begin with. -/
inductive Ends
    (medium : Medium)
    (fs : FileSystem)
    (directory stem json page : String) : Except SaveFault Saved → FileSystem → Prop
  /-- The directory cannot be made; others may have been made on the way. -/
  | noDirectory
      {last : FileSystem}
      (fault : FileFault)
      (hfault : fs.makeDirectories directory = .error fault)
      (hsame : SameBut (MadeFor (directory :: Path.above directory) fs last) fs last) :
      Ends medium fs directory stem json page (.error (.noDirectory directory fault)) last
  /-- The first file cannot be opened: nothing was written. -/
  | noJson
      {last : FileSystem}
      (fault : FileFault)
      (hfault : last.writeText (Path.join directory (stem ++ ".json")) json = .error fault)
      (hprepared : Prepared fs directory last) :
      Ends medium fs directory stem json page
        (.error (.unwritable (Path.join directory (stem ++ ".json")) fault)) last
  /-- The medium stops the first file: its beginning was written, and nothing else. -/
  | jsonStopped
      {made last : FileSystem}
      {place : List String}
      (stop : Stop)
      (hstop : medium (Path.join directory (stem ++ ".json")) json.toUTF8 = some stop)
      (hprepared : Prepared fs directory made)
      (hsame : SameBut (· = place) made last)
      (hjson : PartAt made last directory (stem ++ ".json") place)
      (hkept : last.readBytes (Path.join directory (stem ++ ".json")) =
        .ok (json.toUTF8.extract 0 stop.count)) :
      Ends medium fs directory stem json page
        (.error (.unwritable (Path.join directory (stem ++ ".json")) stop.fault)) last
  /-- The second file cannot be opened: the first one was written, and nothing else. -/
  | noMarkdown
      {made last : FileSystem}
      {place : List String}
      (fault : FileFault)
      (hfault : last.writeText (Path.join directory (stem ++ ".md")) page = .error fault)
      (hprepared : Prepared fs directory made)
      (hsame : SameBut (· = place) made last)
      (hjson : PartAt made last directory (stem ++ ".json") place)
      (hjsonText : last.readText (Path.join directory (stem ++ ".json")) = .ok json) :
      Ends medium fs directory stem json page
        (.error (.unwritable (Path.join directory (stem ++ ".md")) fault)) last
  /-- The medium stops the second file: the first one and its beginning were written, and nothing else. -/
  | markdownStopped
      {made last : FileSystem}
      {place place' : List String}
      (stop : Stop)
      (hstop : medium (Path.join directory (stem ++ ".md")) page.toUTF8 = some stop)
      (hprepared : Prepared fs directory made)
      (hboth : TwoParts made last directory stem json place place')
      (hkept : last.readBytes (Path.join directory (stem ++ ".md")) =
        .ok (page.toUTF8.extract 0 stop.count)) :
      Ends medium fs directory stem json page
        (.error (.unwritable (Path.join directory (stem ++ ".md")) stop.fault)) last
  /-- Both files were written, and nothing else. -/
  | saved
      {made last : FileSystem}
      {place place' : List String}
      (hprepared : Prepared fs directory made)
      (hboth : TwoParts made last directory stem json place place')
      (hmarkdownText : last.readText (Path.join directory (stem ++ ".md")) = .ok page) :
      Ends medium fs directory stem json page
        (.ok ⟨Path.join directory (stem ++ ".json"), Path.join directory (stem ++ ".md")⟩) last

/-! ## Where a file is written -/

section Places

variable {fs later : FileSystem} {directory name : String} {content : ByteArray} {place : List String}

theorem prepared_of_makeDirectories
    {made : FileSystem}
    (hmake : fs.makeDirectories directory = .ok made) :
    Prepared fs directory made where
  done := hmake
  same := makeDirectories_sameBut hmake
  there hthere := by
    rw [makeDirectories_of_hasDirectory hthere] at hmake
    exact (Except.ok.inj hmake).symm

/-- A directory is found at its path, however the path is written. -/
theorem folder?_eq
    {trail : Trail}
    {entries : List (String × Entry)}
    (hreach : fs.reach (fs.start directory ++ Path.parts directory) = .arrived trail)
    (htop : top fs.root trail = .directory entries) :
    folder? fs directory = some (trailNames trail) := by
  obtain ⟨more, hmore, hsteps⟩ := Path.steps_eq directory
  have hwalk : walk fs.root trail more = .arrived trail := by
    rcases hmore with rfl | rfl
    · rfl
    · rw [walk_cons, look, htop]
      rfl
  have hfollow : fs.reach (fs.start directory ++ Path.parts directory ++ more) = .arrived trail :=
    follow_append hreach hwalk (by simp)
  rw [folder?, hsteps, ← List.append_assoc, hfollow]

/-- The walk to a name in a directory, if it does not fail. -/
theorem locate_join
    (hname : Path.IsFileName name)
    (hends : ∀ fault, fs.locate (Path.join directory name) ≠ .failed fault) :
    fs.locate (Path.join directory name) =
      fs.reach (fs.start directory ++ Path.parts directory ++ [name]) := by
  have hstart : fs.start (Path.join directory name) = fs.start directory := by
    rw [start, start, Path.isAbsolute_join directory hname]
  cases hfault : textFault? (Path.join directory name) with
  | some fault =>
      refine absurd ?_ (hends fault)
      rw [locate, hfault]
  | none =>
      rw [locate, hfault]
      simp only
      rw [hstart, Path.steps_join directory hname, List.append_assoc]

/-- In a directory a name that is not the name of a link leads to its entry, or nothing is there. -/
theorem exists_folder_of_locate
    (hname : Path.IsFileName name)
    (hends : ∀ fault, fs.locate (Path.join directory name) ≠ .failed fault) :
    ∃ ended, folder? fs directory = some (trailNames ended) ∧
      (Unlinked fs (trailNames ended ++ [name]) →
        fs.locate (Path.join directory name) = .absent ended name ∨
          ∃ child, fs.locate (Path.join directory name) = .arrived ((name, child) :: ended)) := by
  have hlocate := locate_join hname hends
  rw [hlocate] at hends ⊢
  obtain ⟨ended, entries, hended, htop, hstep⟩ := exists_directory_of_append hends
  refine ⟨ended, folder?_eq hended htop, ?_⟩
  intro hunlinked
  have hshort := (hstep.resolve_left hname.2.2.1).resolve_left hname.2.2.2
  have hwalk := walk_cons_of_name htop hname.2.2.1 hname.2.2.2 hshort []
  have hthere : at? (trailNames ended ++ [name]) fs.root = entries.lookup name := by
    rw [at?_concat, (rooted_of_reach hended).at?_trailNames, htop]
    rfl
  cases hlookup : entries.lookup name with
  | none =>
      have habsent : walk fs.root ended [name] = .absent ended name := by
        rw [hwalk, hlookup]
        rfl
      exact .inl (follow_append hended habsent (by simp))
  | some child =>
      have harrived : walk fs.root ended [name] = .arrived ((name, child) :: ended) := by
        rw [hwalk, hlookup]
        cases child with
        | link target =>
            exact absurd (hthere.trans hlookup) (hunlinked target)
        | file content time | directory inner =>
            rfl
      exact .inr ⟨child, follow_append hended harrived (by simp)⟩

/-- A file that was written under a name in a directory is there unless the name was that of a link. -/
theorem exists_folder_of_write
    (hname : Path.IsFileName name)
    (hwrite : fs.writeBytes (Path.join directory name) content = .ok later)
    (hplace : later.realPath? (Path.join directory name) = some place) :
    ∃ folder, folder? fs directory = some folder ∧
      (Unlinked fs (folder ++ [name]) → place = folder ++ [name]) := by
  obtain ⟨names, last, hsets, hcases⟩ := writeBytes_sets hwrite
  obtain rfl : names ++ [last] = place := Option.some.inj (hsets.leads.symm.trans hplace)
  have hends : ∀ fault, fs.locate (Path.join directory name) ≠ .failed fault := by
    intro fault hfailed
    rw [realPath?, hfailed] at hcases
    rcases hcases with hthere | ⟨trail, last, habsent, -⟩
    · cases hthere
    · cases habsent
  obtain ⟨ended, hfolder, hleads⟩ := exists_folder_of_locate hname hends
  refine ⟨trailNames ended, hfolder, ?_⟩
  intro hunlinked
  rcases hleads hunlinked with habsent | ⟨child, hfound⟩
  · rcases hcases with hreal | ⟨trail, missing, hlost, hnames⟩
    · rw [realPath?, habsent] at hreal
      cases hreal
    · rw [habsent] at hlost
      obtain ⟨rfl, rfl⟩ := Walk.absent.inj hlost
      exact hnames
  · rcases hcases with hreal | ⟨trail, missing, hlost, -⟩
    · exact Option.some.inj (hreal.symm.trans (realPath?_of_arrived hfound))
    · rw [hfound] at hlost
      cases hlost

/-- A directory is found where it was when files have grown. -/
theorem folder?_of_extends
    {written : List String → Prop}
    {folder : List String}
    (hextends : Extends written fs later)
    (hfolder : folder? fs directory = some folder) :
    folder? later directory = some folder := by
  have hgrows := reach_growsTo hextends (fs.start directory ++ Path.steps directory)
  unfold folder? at hfolder ⊢
  rw [hextends.start_eq]
  cases hreach : fs.reach (fs.start directory ++ Path.steps directory) with
  | arrived trail =>
      rw [hreach] at hfolder hgrows
      obtain ⟨trail', hreach', halong⟩ := hgrows
      rw [hreach']
      exact (congrArg some halong.names_eq).trans hfolder
  | absent trail name | failed fault | linked trail target rest =>
      rw [hreach] at hfolder
      cases hfolder

/-- Writing a file makes no link. -/
theorem Unlinked.of_wrote
    {path : String}
    {other : List String}
    (hwrote : Wrote fs path content place later)
    (hunlinked : Unlinked fs other) :
    Unlinked later other := by
  intro target hlink
  by_cases hsame : other = place
  · rw [hsame, hwrote.file] at hlink
    cases hlink
  · have hface := hwrote.same.same other hsame
    rw [faceAt, faceAt, hlink, Option.map_some, eq_comm, Option.map_eq_some_iff] at hface
    obtain ⟨entry, hentry, hlinked⟩ := hface
    cases entry with
    | link target' =>
        exact hunlinked target' hentry
    | file content time | directory entries =>
        cases hlinked

theorem partAt_of_wrote
    (hwrite : fs.writeBytes (Path.join directory name) content = .ok later)
    (hwrote : Wrote fs (Path.join directory name) content place later) :
    PartAt fs later directory name place where
  leads := hwrote.leads
  replaced := hwrote.replaced
  inside hname := exists_folder_of_write hname hwrite hwrote.leads

/-- A file that was written stays where it is. -/
theorem PartAt.kept
    {written : List String → Prop}
    {last : FileSystem}
    (hpart : PartAt fs later directory name place)
    (hextends : Extends written later last) :
    PartAt fs last directory name place where
  leads := realPath?_of_extends hextends hpart.leads
  replaced := hpart.replaced
  inside := hpart.inside

/-- Names with the same stem are names of files together. -/
theorem isFileName_json
    {stem : String}
    (hname : Path.IsFileName (stem ++ ".md")) :
    Path.IsFileName (stem ++ ".json") := by
  have hslash := hname.2.1
  rw [String.toList_append, List.mem_append, not_or] at hslash
  have hlong : 4 < (stem ++ ".json").length := by
    rw [String.length_append]
    exact Nat.lt_of_lt_of_le (by decide) (Nat.le_add_left _ _)
  have hne : ∀ short : String, short.length ≤ 4 → stem ++ ".json" ≠ short := by
    rintro _ hshort rfl
    omega
  refine ⟨hne "" (by decide), ?_, hne "." (by decide), hne ".." (by decide)⟩
  rw [String.toList_append, List.mem_append, not_or]
  exact ⟨hslash.1, by decide⟩

/-- The second file, as it is seen from before the first one was written. -/
theorem PartAt.of_wrote
    {stem : String}
    {place' : List String}
    {last : FileSystem}
    (hjson : PartAt fs later directory (stem ++ ".json") place)
    (hwrote : Wrote fs (Path.join directory (stem ++ ".json")) content place later)
    (hmarkdown : PartAt later last directory (stem ++ ".md") place') :
    PartAt fs last directory (stem ++ ".md") place' where
  leads := hmarkdown.leads
  replaced old hold := by
    obtain ⟨grown, hgrown, hkept⟩ := hwrote.grown.grows place' old hold
    obtain ⟨content, time, rfl⟩ := hmarkdown.replaced grown hgrown
    cases hkept with
    | file =>
        exact ⟨content, time, rfl⟩
    | rewritten old _ time _ _ =>
        exact ⟨old, time, rfl⟩
  inside hname := by
    obtain ⟨folder, hfolder, -⟩ := hjson.inside (isFileName_json hname)
    obtain ⟨folder', hfolder', hinside⟩ := hmarkdown.inside hname
    obtain rfl := Option.some.inj ((folder?_of_extends hwrote.grown hfolder).symm.trans hfolder')
    exact ⟨folder, hfolder, fun hunlinked => hinside (hunlinked.of_wrote hwrote)⟩

theorem twoParts_of_wrote
    {stem json : String}
    {place' : List String}
    {last : FileSystem}
    (hjson : PartAt fs later directory (stem ++ ".json") place)
    (hwrote : Wrote fs (Path.join directory (stem ++ ".json")) json.toUTF8 place later)
    (hwrite : later.writeBytes (Path.join directory (stem ++ ".md")) content = .ok last)
    (hwrote' : Wrote later (Path.join directory (stem ++ ".md")) content place' last) :
    TwoParts fs last directory stem json place place' where
  same := (hwrote.same.mono fun _ => Or.inl).trans (hwrote'.same.mono fun _ => Or.inr)
  first := hjson.kept hwrote'.grown
  second := hjson.of_wrote hwrote (partAt_of_wrote hwrite hwrote')
  firstText hne :=
    readText_of_realPath? (hjson.kept hwrote'.grown).leads
      (file_of_extends hwrote'.grown hwrote.file hne)

end Places

/-! ## All ways to end -/

/-- The ways in which writing one file of a report ends. -/
inductive PartEnds
    (medium : Medium)
    (fs : FileSystem)
    (path text : String) : Except SaveFault Unit → FileSystem → Prop
  | unopened
      (fault : FileFault)
      (hwrite : fs.writeText path text = .error fault) :
      PartEnds medium fs path text (.error (.unwritable path fault)) fs
  | stopped
      {last : FileSystem}
      (stop : Stop)
      (hstop : medium path text.toUTF8 = some stop)
      (hwrite : fs.writeBytes path (text.toUTF8.extract 0 stop.count) = .ok last) :
      PartEnds medium fs path text (.error (.unwritable path stop.fault)) last
  | whole
      {last : FileSystem}
      (hwrite : fs.writeText path text = .ok last) :
      PartEnds medium fs path text (.ok ()) last

theorem partEnds_writePart
    (medium : Medium)
    (fs : FileSystem)
    (path text : String) :
    PartEnds medium fs path text (writePart medium fs path text).1
      (writePart medium fs path text).2 := by
  unfold writePart
  rcases writeOn_cases medium fs path text.toUTF8 with
    ⟨fault, hwrite, hon⟩ | ⟨later, hwrite, hon⟩ | ⟨stop, later, hstop, hwrite, hon⟩
  · rw [hon]
    exact .unopened fault hwrite
  · rw [hon]
    exact .whole hwrite
  · rw [hon]
    exact .stopped stop hstop hwrite

/--
How saving a report ends, on any medium.

Either its directory cannot be made, and then directories on the way to it are all that was made.  Or one
of its files cannot be opened, the JSON text or the page: then nothing was written but the file before
it.  Or the medium stops one of them: then its beginning was written, as far as the medium went, and
nothing else but the file before it.  Or both files are written, under one stem, and nothing else is
touched but directories that were missing on the way.  The places of the files are in the directory
unless links lead from there to somewhere else, and each file takes the place of a file or of nothing.
-/
theorem save_ends
    (fs : FileSystem)
    (directory stem stamp : String)
    (value : Value)
    (page : String)
    (medium : Medium) :
    Ends medium fs directory (stem ++ "_" ++ stamp) value.pretty page
      (save fs directory stem stamp value page medium).1
      (save fs directory stem stamp value page medium).2 := by
  have hstem : stem ++ "_" ++ stamp ≠ "" := by
    intro hempty
    have hlength := congrArg String.length hempty
    simp at hlength
  unfold save
  cases hmake : fs.makeDirectories directory with
  | error fault =>
      exact .noDirectory fault hmake (afterDirectories_sameBut fs directory)
  | ok made =>
      have hprepared := prepared_of_makeDirectories hmake
      simp only [Path.join_append directory hstem]
      have hfirst := partEnds_writePart medium made
        (Path.join directory (stem ++ "_" ++ stamp ++ ".json")) value.pretty
      generalize writePart medium made
        (Path.join directory (stem ++ "_" ++ stamp ++ ".json")) value.pretty = first at hfirst ⊢
      obtain ⟨result, written⟩ := first
      cases hfirst with
      | unopened fault hwrite =>
          exact .noJson fault hwrite hprepared
      | stopped stop hstop hwrite =>
          obtain ⟨place, hwrote⟩ := exists_wrote hwrite
          exact .jsonStopped stop hstop hprepared hwrote.same (partAt_of_wrote hwrite hwrote)
            (readBytes_of_realPath? hwrote.leads hwrote.file)
      | whole hwrite =>
          obtain ⟨place, hwrote⟩ := exists_wrote hwrite
          have hpart := partAt_of_wrote hwrite hwrote
          have hsecond := partEnds_writePart medium written
            (Path.join directory (stem ++ "_" ++ stamp ++ ".md")) page
          simp only
          generalize writePart medium written
            (Path.join directory (stem ++ "_" ++ stamp ++ ".md")) page = second at hsecond ⊢
          obtain ⟨result, last⟩ := second
          cases hsecond with
          | unopened fault hwrite' =>
              exact .noMarkdown fault hwrite' hprepared hwrote.same hpart
                (readText_of_realPath? hwrote.leads hwrote.file)
          | stopped stop hstop hwrite' =>
              obtain ⟨place', hwrote'⟩ := exists_wrote hwrite'
              exact .markdownStopped stop hstop hprepared
                (twoParts_of_wrote hpart hwrote hwrite' hwrote')
                (readBytes_of_realPath? hwrote'.leads hwrote'.file)
          | whole hwrite' =>
              obtain ⟨place', hwrote'⟩ := exists_wrote hwrite'
              exact .saved hprepared (twoParts_of_wrote hpart hwrote hwrite' hwrote')
                (readText_of_realPath? hwrote'.leads hwrote'.file)

/-- A machine on which a directory has the name of the page. -/
def blockedMachine : FileSystem where
  root := .directory [("out", .directory [("security_scan_19700101_000000.md", .directory [])])]
  current := []
  now := 0

/-- A medium with room for one byte. -/
def fullMedium : Medium := fun _ _ => some ⟨1, .noSpace⟩

/-- If the page cannot be opened, its JSON text stays behind.  If the medium is full, the beginning of the
JSON text stays.  If a report is saved, a directory that was missing on the way stays, even in the
directory of the report. -/
theorem save_leaves_parts :
    let half := save blockedMachine "/out" "security_scan" "19700101_000000" (.object []) "page"
    let stopped :=
      save reportMachine "/out" "security_scan" "19700101_000000" (.object []) "page" fullMedium
    let full := save reportMachine "/out/new/.." "security_scan" "19700101_000000" (.object []) "page"
    half.1 = .error (.unwritable "/out/security_scan_19700101_000000.md" .isDirectory) ∧
      blockedMachine.hasEntry "/out/security_scan_19700101_000000.json" = false ∧
      half.2.readText "/out/security_scan_19700101_000000.json" = .ok "\x7b\x7d" ∧
      stopped.1 = .error (.unwritable "/out/security_scan_19700101_000000.json" .noSpace) ∧
      reportMachine.hasEntry "/out/security_scan_19700101_000000.json" = false ∧
      stopped.2.readText "/out/security_scan_19700101_000000.json" = .ok "\x7b" ∧
      full.1.isOk = true ∧
      folder? full.2 "/out/new/.." = some ["out"] ∧
      reportMachine.hasEntry "/out/new" = false ∧
      full.2.hasDirectory "/out/new" = true := by
  decide +kernel

end Report
end CodeAudit
