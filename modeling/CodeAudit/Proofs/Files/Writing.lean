import CodeAudit.Proofs.Files.Growth
import CodeAudit.Proofs.Files.Path

/-!
# Making directories and writing files

Making directories and writing files lets the tree grow, so a path that leads to an entry goes on
leading to the same place.  A file that is written is found at its path with its new content, and all
other files are as they were.

**Results.**
* `realPath?_of_extends`: where paths lead in files that have grown.
* `writeText_extends`: what writing a file does.
* `makeDirectories_extends`: what making directories does.
-/

namespace CodeAudit
namespace FileSystem

open Entry

/-- Files that have grown from others, in which only the files at the places `written` were written. -/
structure Extends (written : List String → Prop) (fs later : FileSystem) : Prop where
  current : later.current = fs.current
  grows : Grows written fs.root later.root

section Extends

variable {written written' : List String → Prop} {fs later last : FileSystem} {path : String}

theorem Extends.refl
    (written : List String → Prop)
    (fs : FileSystem) :
    Extends written fs fs where
  current := rfl
  grows := .refl written fs.root

theorem Extends.trans
    (hfirst : Extends written fs later)
    (hsecond : Extends written later last) :
    Extends written fs last where
  current := hsecond.current.trans hfirst.current
  grows := hfirst.grows.trans hsecond.grows

theorem Extends.mono
    (hextends : Extends written fs later)
    (hwritten : ∀ place, written place → written' place) :
    Extends written' fs later where
  current := hextends.current
  grows := hextends.grows.mono hwritten

/-- Paths begin where they began. -/
theorem Extends.start_eq
    (hextends : Extends written fs later)
    (path : String) :
    later.start path = fs.start path := by
  rw [start, start, hextends.current]

theorem reach_growsTo
    (hextends : Extends written fs later)
    (steps : List String) :
    (fs.reach steps).GrowsTo fs.root later.root (later.reach steps) :=
  follow_growsTo hextends.grows 41 .nil steps

theorem locate_growsTo
    (hextends : Extends written fs later)
    (path : String) :
    (fs.locate path).GrowsTo fs.root later.root (later.locate path) := by
  unfold locate
  cases textFault? path with
  | some fault =>
      trivial
  | none =>
      rw [hextends.start_eq]
      exact reach_growsTo hextends _

/-- The trail of a walk begins at the root. -/
theorem rooted_of_reach
    {steps : List String}
    {trail : Trail}
    (hreach : fs.reach steps = .arrived trail) :
    Rooted fs.root trail := by
  have hgrows := reach_growsTo (.refl (fun _ => False) fs) steps
  rw [hreach] at hgrows
  obtain ⟨_, _, halong⟩ := hgrows
  exact halong.rooted

theorem rooted_of_locate
    {trail : Trail}
    (hlocate : fs.locate path = .arrived trail) :
    Rooted fs.root trail := by
  have hgrows := locate_growsTo (.refl (fun _ => False) fs) path
  rw [hlocate] at hgrows
  obtain ⟨_, _, halong⟩ := hgrows
  exact halong.rooted

/-- A path that leads to an entry goes on leading to its place. -/
theorem realPath?_of_extends
    (hextends : Extends written fs later)
    {place : List String}
    (hplace : fs.realPath? path = some place) :
    later.realPath? path = some place := by
  have hgrows := locate_growsTo hextends path
  unfold realPath? at hplace ⊢
  cases hlocate : fs.locate path with
  | arrived trail =>
      rw [hlocate] at hplace hgrows
      obtain ⟨trail', hlocate', halong⟩ := hgrows
      rw [hlocate']
      exact (congrArg some halong.names_eq).trans hplace
  | absent trail name | failed fault | linked trail target rest =>
      rw [hlocate] at hplace
      cases hplace

/-- At a path is the entry of the place where it leads. -/
theorem entry_of_realPath?
    {place : List String}
    {found : Entry}
    (hplace : fs.realPath? path = some place)
    (hfound : at? place fs.root = some found) :
    fs.entry path = .ok found := by
  unfold realPath? at hplace
  unfold entry
  cases hlocate : fs.locate path with
  | arrived trail =>
      rw [hlocate] at hplace
      obtain rfl := Option.some.inj hplace
      rw [(rooted_of_locate hlocate).at?_trailNames] at hfound
      exact congrArg Except.ok (Option.some.inj hfound)
  | absent trail name | failed fault | linked trail target rest =>
      rw [hlocate] at hplace
      cases hplace

theorem fromUTF8?_toUTF8
    (text : String) :
    String.fromUTF8? text.toUTF8 = some text := by
  simp only [String.fromUTF8?, String.toUTF8_eq_toByteArray, dif_pos text.isValidUTF8]
  rfl

/-- A text is read where it is. -/
theorem readBytes_of_realPath?
    {place : List String}
    {content : ByteArray}
    {time : Nat}
    (hplace : fs.realPath? path = some place)
    (hfile : at? place fs.root = some (.file content time)) :
    fs.readBytes path = .ok content := by
  rw [readBytes, entry_of_realPath? hplace hfile]
  rfl

theorem readText_of_realPath?
    {place : List String}
    {text : String}
    {time : Nat}
    (hplace : fs.realPath? path = some place)
    (hfile : at? place fs.root = some (.file text.toUTF8 time)) :
    fs.readText path = .ok text := by
  unfold readText
  rw [readBytes_of_realPath? hplace hfile]
  simp only [bind, Except.bind, fromUTF8?_toUTF8, pure, Except.pure]

end Extends

/-! ## Setting an entry -/

section Setting

variable {fs later : FileSystem} {path name : String} {new : Entry} {names : List String}

theorem exists_directory_of_child?
    {above found : Entry}
    {name : String}
    (hchild : above.child? name = some found) :
    ∃ entries, above = .directory entries ∧ entries.lookup name = some found := by
  cases above with
  | file content time =>
      cases hchild
  | link target =>
      cases hchild
  | directory entries =>
      exact ⟨entries, rfl, hchild⟩

/-- The files after an entry was set in a directory. -/
theorem extends_changed
    {entries : List (String × Entry)}
    (hdirectory : at? names fs.root = some (.directory entries))
    (hreplaced : ∀ old, at? (names ++ [name]) fs.root = some old →
      ∃ content time content' time', old = .file content time ∧ new = .file content' time') :
    Extends (fun place => place = names ++ [name] ∧ (at? place fs.root).isSome) fs
      (fs.changed names (setIn name new)) := by
  have hthere : at? (names ++ [name]) fs.root = entries.lookup name := by
    rw [at?_concat, hdirectory]
    rfl
  have hgrows := grows_changeAt_setIn hdirectory fun old hold => hreplaced old (hthere.trans hold)
  refine ⟨rfl, hgrows.mono ?_⟩
  rintro place ⟨rfl, hsome⟩
  exact ⟨rfl, by rwa [hthere]⟩

/-- An entry was set in a directory, under a name that was free or the name of a file, and a path leads
to it. -/
structure Sets
    (fs : FileSystem)
    (path : String)
    (new : Entry)
    (names : List String)
    (name : String)
    (later : FileSystem) : Prop where
  directory : ∃ entries, at? names fs.root = some (.directory entries)
  replaced : ∀ old, at? (names ++ [name]) fs.root = some old →
    ∃ content time content' time', old = .file content time ∧ new = .file content' time'
  changed : later = fs.changed names (setIn name new)
  leads : later.realPath? path = some (names ++ [name])

theorem Sets.extends_later
    (hsets : Sets fs path new names name later) :
    Extends (fun place => place = names ++ [name] ∧ (at? place fs.root).isSome) fs later := by
  obtain ⟨entries, hdirectory⟩ := hsets.directory
  rw [hsets.changed]
  exact extends_changed hdirectory hsets.replaced

theorem Sets.at?_eq
    (hsets : Sets fs path new names name later) :
    at? (names ++ [name]) later.root = some new := by
  obtain ⟨entries, hdirectory⟩ := hsets.directory
  rw [hsets.changed]
  exact at?_changeAt_concat hdirectory

/-- Nothing else changes if the new entry has no entries. -/
theorem Sets.faceAt_eq
    (hsets : Sets fs path new names name later)
    (hnew : ∀ other, new.child? other = none)
    {place : List String}
    (hne : place ≠ names ++ [name]) :
    faceAt place later.root = faceAt place fs.root := by
  obtain ⟨entries, hdirectory⟩ := hsets.directory
  rw [hsets.changed]
  refine faceAt_changeAt_setIn hdirectory ?_ hnew hne
  intro old hold other
  have hthere : at? (names ++ [name]) fs.root = some old := by
    rw [at?_concat, hdirectory]
    exact hold
  obtain ⟨content, time, _, _, rfl, -⟩ := hsets.replaced old hthere
  rfl

end Setting

/-! ## Writing a file -/

section Writing

variable {fs later : FileSystem} {path : String} {content : ByteArray}

theorem realPath?_of_arrived
    {name : String}
    {found : Entry}
    {above : Trail}
    (hlocate : fs.locate path = .arrived ((name, found) :: above)) :
    fs.realPath? path = some (trailNames above ++ [name]) := by
  rw [realPath?, hlocate, ← trailNames_cons]

/-- A file is set in place of the file to which a path leads. -/
theorem sets_of_arrived
    {name : String}
    {old : ByteArray}
    {time : Nat}
    {above : Trail}
    (hlocate : fs.locate path = .arrived ((name, .file old time) :: above)) :
    Sets fs path (.file content fs.now) (trailNames above) name
      (fs.changed (trailNames above) (setIn name (.file content fs.now))) := by
  cases rooted_of_locate hlocate with
  | cons hchild habove =>
      obtain ⟨entries, htop, -⟩ := exists_directory_of_child? hchild
      have hdirectory : at? (trailNames above) fs.root = some (.directory entries) := by
        rw [habove.at?_trailNames, htop]
      have hthere : at? (trailNames above ++ [name]) fs.root = some (.file old time) := by
        rw [at?_concat, habove.at?_trailNames, Option.bind_some, hchild]
      have hreplaced : ∀ found, at? (trailNames above ++ [name]) fs.root = some found →
          ∃ content' time' content'' time'', found = .file content' time' ∧
            Entry.file content fs.now = .file content'' time'' := by
        intro found hfound
        rw [hthere] at hfound
        obtain rfl := Option.some.inj hfound
        exact ⟨_, _, _, _, rfl, rfl⟩
      exact ⟨⟨entries, hdirectory⟩, hreplaced, rfl,
        realPath?_of_extends (extends_changed hdirectory hreplaced) (realPath?_of_arrived hlocate)⟩

/-- A file is set where only the last entry of a path is missing. -/
theorem sets_of_absent
    {trail : Trail}
    {name : String}
    (hlocate : fs.locate path = .absent trail name) :
    Sets fs path (.file content fs.now) (trailNames trail) name
      (fs.changed (trailNames trail) (setIn name (.file content fs.now))) := by
  have habsent := locate_growsTo (.refl (fun _ => False) fs) path
  rw [hlocate] at habsent
  obtain ⟨hrooted, ⟨entries, htop, hlookup⟩, -⟩ := habsent
  have hdirectory : at? (trailNames trail) fs.root = some (.directory entries) := by
    rw [hrooted.at?_trailNames, htop]
  have hreplaced : ∀ found, at? (trailNames trail ++ [name]) fs.root = some found →
      ∃ content' time' content'' time'', found = .file content' time' ∧
        Entry.file content fs.now = .file content'' time'' := by
    intro found hfound
    rw [at?_concat, hdirectory, Option.bind_some, child?, Entry.entries, hlookup] at hfound
    cases hfound
  have hgrows := locate_growsTo (extends_changed hdirectory hreplaced) path
  rw [hlocate] at hgrows
  obtain ⟨trail', hlocate', -, hnames⟩ :=
    hgrows.2.2 _ (at?_changeAt_concat hdirectory) (by simp)
  refine ⟨⟨entries, hdirectory⟩, hreplaced, rfl, ?_⟩
  rw [realPath?, hlocate']
  exact congrArg some hnames

/-- Writing sets a file where the path leads, or where its last name is missing. -/
theorem writeBytes_sets
    (hwrite : fs.writeBytes path content = .ok later) :
    ∃ names name, Sets fs path (.file content fs.now) names name later ∧
      (fs.realPath? path = some (names ++ [name]) ∨
        ∃ trail last, fs.locate path = .absent trail last ∧
          names ++ [name] = trailNames trail ++ [last]) := by
  unfold writeBytes at hwrite
  split at hwrite
  · split at hwrite <;> cases hwrite
  · split at hwrite
    · next name old time above hlocate =>
      obtain rfl := Except.ok.inj hwrite
      exact ⟨trailNames above, name, sets_of_arrived hlocate,
        .inl (realPath?_of_arrived hlocate)⟩
    · cases hwrite
    · next trail name hlocate =>
      obtain rfl := Except.ok.inj hwrite
      exact ⟨trailNames trail, name, sets_of_absent hlocate, .inr ⟨trail, name, hlocate, rfl⟩⟩
    · cases hwrite
    · cases hwrite

/-- A file that was written is at its path, and no other file has changed. -/
theorem writeBytes_extends
    (hwrite : fs.writeBytes path content = .ok later) :
    ∃ place, Extends (· = place) fs later ∧ later.realPath? path = some place ∧
      at? place later.root = some (.file content fs.now) := by
  obtain ⟨names, name, hsets, -⟩ := writeBytes_sets hwrite
  exact ⟨names ++ [name], hsets.extends_later.mono fun _ => And.left, hsets.leads, hsets.at?_eq⟩

/-- Whether a file can be opened does not depend on what is to be written. -/
theorem writeBytes_error_of_error
    {fault : FileFault}
    (hwrite : fs.writeBytes path content = .error fault)
    (other : ByteArray) :
    fs.writeBytes path other = .error fault := by
  unfold writeBytes at hwrite ⊢
  split at hwrite
  · next hslash =>
    rw [if_pos hslash]
    exact hwrite
  · next hslash =>
    rw [if_neg hslash]
    split at hwrite
    · cases hwrite
    · exact hwrite
    · cases hwrite
    · exact hwrite
    · exact hwrite

/-- What a write comes to: the file is not opened, or it is written whole, or the medium stops and the
file keeps what was written before. -/
theorem writeOn_cases
    (medium : Medium)
    (fs : FileSystem)
    (path : String)
    (content : ByteArray) :
    (∃ fault, fs.writeBytes path content = .error fault ∧
      fs.writeOn medium path content = (.error fault, fs)) ∨
    (∃ later, fs.writeBytes path content = .ok later ∧
      fs.writeOn medium path content = (.ok (), later)) ∨
    ∃ stop later, medium path content = some stop ∧
      fs.writeBytes path (content.extract 0 stop.count) = .ok later ∧
      fs.writeOn medium path content = (.error stop.fault, later) := by
  unfold writeOn
  cases hstop : medium path content with
  | none =>
      simp only
      cases hwrite : fs.writeBytes path content with
      | error fault =>
          exact .inl ⟨fault, rfl, rfl⟩
      | ok later =>
          exact .inr (.inl ⟨later, rfl, rfl⟩)
  | some stop =>
      simp only
      cases hwrite : fs.writeBytes path (content.extract 0 stop.count) with
      | error fault =>
          exact .inl ⟨fault, writeBytes_error_of_error hwrite content, rfl⟩
      | ok later =>
          exact .inr (.inr ⟨stop, later, rfl, hwrite, rfl⟩)

/-- A text that was written is read at its path, and no other file has changed. -/
theorem writeText_extends
    {text : String}
    (hwrite : fs.writeText path text = .ok later) :
    ∃ place, Extends (· = place) fs later ∧ later.realPath? path = some place ∧
      at? place later.root = some (.file text.toUTF8 fs.now) :=
  writeBytes_extends hwrite

end Writing

/-! ## Making directories -/

section Making

variable {fs made : FileSystem} {path : String}

/-- The directory in which the last part of a path is looked for. -/
theorem lastPlace_cases
    {trail : Trail}
    {last : String}
    (hplace : fs.lastPlace path = .ok (trail, last)) :
    textFault? path = none ∧ (Path.parts path).getLast? = some last ∧
      fs.reach (fs.start path ++ (Path.parts path).dropLast) = .arrived trail ∧
      ∃ entries, top fs.root trail = .directory entries := by
  unfold lastPlace at hplace
  split at hplace
  · cases hplace
  · next hfault =>
    split at hplace
    · cases hplace
    · next hlast =>
      split at hplace
      · next found hreach =>
        split at hplace
        · next hdirectory =>
          obtain ⟨rfl, rfl⟩ := Prod.mk.inj (Except.ok.inj hplace)
          refine ⟨hfault, hlast, hreach, ?_⟩
          change (top fs.root found).isDirectory = true at hdirectory
          cases htop : top fs.root found with
          | directory entries =>
              exact ⟨entries, rfl⟩
          | file content time | link target =>
              rw [htop] at hdirectory
              cases hdirectory
        · cases hplace
      all_goals cases hplace

/-- A path leads to a directory that is in the directory of its last part. -/
theorem realPath?_of_reach
    {trail : Trail}
    {last : String}
    {inner : List (String × Entry)}
    (hfault : textFault? path = none)
    (hlast : (Path.parts path).getLast? = some last)
    (hreach : fs.reach (fs.start path ++ (Path.parts path).dropLast) = .arrived trail)
    (hname : last ≠ "." ∧ last ≠ ".." ∧ ¬ nameLimit < last.utf8ByteSize)
    (hchild : (top fs.root trail).child? last = some (.directory inner)) :
    fs.realPath? path = some (trailNames trail ++ [last]) := by
  obtain ⟨more, hmore, hsteps⟩ := Path.steps_eq_concat hlast
  obtain ⟨entries, htop, hlookup⟩ := exists_directory_of_child? hchild
  have hwalk : walk fs.root trail (last :: more) =
      .arrived ((last, .directory inner) :: trail) := by
    rw [walk_cons_of_name htop hname.1 hname.2.1 hname.2.2, hlookup]
    rcases hmore with rfl | rfl <;> rfl
  have hfollow := follow_append hreach hwalk (by simp)
  rw [realPath?, locate, hfault]
  simp only [reach]
  rw [hsteps, ← List.append_assoc, hfollow]
  exact congrArg some (trailNames_cons _ _ _)

/-- What is checked before a directory is made. -/
theorem makeDirectory_cases
    (hmake : fs.makeDirectory path = .ok made) :
    ∃ trail last, fs.lastPlace path = .ok (trail, last) ∧
      (last ≠ "." ∧ last ≠ ".." ∧ ¬ nameLimit < last.utf8ByteSize) ∧
      (top fs.root trail).child? last = none ∧
      made = fs.changed (trailNames trail) (setIn last (.directory [])) := by
  unfold makeDirectory at hmake
  cases hplace : fs.lastPlace path with
  | error fault =>
      rw [hplace] at hmake
      cases hmake
  | ok found =>
      obtain ⟨trail, last⟩ := found
      rw [hplace] at hmake
      simp only [bind, Except.bind] at hmake
      split at hmake
      · cases hmake
      · next hname =>
        split at hmake
        · cases hmake
        · next hshort =>
          split at hmake
          · cases hmake
          · next hfree =>
            rw [Bool.or_eq_true, decide_eq_true_iff, decide_eq_true_iff, not_or] at hname
            exact ⟨trail, last, rfl, ⟨hname.1, hname.2, hshort⟩,
              Option.not_isSome_iff_eq_none.mp hfree, (Except.ok.inj hmake).symm⟩

/-- Making a directory sets an empty one under a name that was free. -/
theorem makeDirectory_sets
    (hmake : fs.makeDirectory path = .ok made) :
    ∃ names name, Sets fs path (.directory []) names name made := by
  obtain ⟨trail, last, hplace, hname, hfree, hchanged⟩ := makeDirectory_cases hmake
  obtain ⟨hfault, hlast, hreach, entries, htop⟩ := lastPlace_cases hplace
  have hrooted := rooted_of_reach hreach
  have hdirectory : at? (trailNames trail) fs.root = some (.directory entries) := by
    rw [hrooted.at?_trailNames, htop]
  have hreplaced : ∀ old, at? (trailNames trail ++ [last]) fs.root = some old →
      ∃ content time content' time', old = .file content time ∧
        Entry.directory [] = .file content' time' := by
    intro old hold
    rw [at?_concat, hrooted.at?_trailNames, Option.bind_some, hfree] at hold
    cases hold
  have hextends := extends_changed hdirectory hreplaced
  have hset : at? (trailNames trail ++ [last]) made.root = some (.directory []) := by
    rw [hchanged]
    exact at?_changeAt_concat hdirectory
  rw [← hchanged] at hextends
  refine ⟨trailNames trail, last, ⟨entries, hdirectory⟩, hreplaced, hchanged, ?_⟩
  -- The same directory is found again, and now the name is in it.
  have hagain := reach_growsTo hextends (fs.start path ++ (Path.parts path).dropLast)
  rw [hreach, ← hextends.start_eq] at hagain
  obtain ⟨trail', hreach', halong⟩ := hagain
  rw [← halong.names_eq] at hset ⊢
  rw [at?_concat, halong.rooted'.at?_trailNames, Option.bind_some] at hset
  exact realPath?_of_reach hfault hlast hreach' hname hset

theorem makeDirectory_extends
    (hmake : fs.makeDirectory path = .ok made) :
    Extends (fun _ => False) fs made := by
  obtain ⟨names, name, hsets⟩ := makeDirectory_sets hmake
  refine hsets.extends_later.mono ?_
  rintro place ⟨rfl, hthere⟩
  obtain ⟨old, hold⟩ := Option.isSome_iff_exists.mp hthere
  obtain ⟨_, _, _, _, -, hfile⟩ := hsets.replaced old hold
  cases hfile

theorem ensureDirectory_extends
    (hmake : fs.ensureDirectory path = .ok made) :
    Extends (fun _ => False) fs made := by
  unfold ensureDirectory at hmake
  split at hmake
  · split at hmake
    · obtain rfl := Except.ok.inj hmake
      exact .refl _ fs
    · cases hmake
  · exact makeDirectory_extends hmake

theorem ensureOutwards_extends
    {paths : List String}
    (hmake : fs.ensureOutwards paths = .ok made) :
    Extends (fun _ => False) fs made := by
  induction paths generalizing made with
  | nil =>
      obtain rfl := Except.ok.inj hmake
      exact .refl _ fs
  | cons path above ih =>
      unfold ensureOutwards at hmake
      split at hmake
      · cases houtwards : fs.ensureOutwards above with
        | error fault =>
            rw [houtwards] at hmake
            cases hmake
        | ok outer =>
            rw [houtwards] at hmake
            exact (ih houtwards).trans (ensureDirectory_extends hmake)
      · exact ensureDirectory_extends hmake

/-- Directories are made next to what is there. -/
theorem makeDirectories_extends
    (hmake : fs.makeDirectories path = .ok made) :
    Extends (fun _ => False) fs made := by
  unfold makeDirectories at hmake
  split at hmake
  · obtain rfl := Except.ok.inj hmake
    exact .refl _ fs
  · exact ensureOutwards_extends hmake

end Making

end FileSystem
end CodeAudit
