import CodeAudit.Proofs.Files.Writing

/-!
# What making directories and writing files leaves untouched

Files grow in a few places only.  Writing a file touches the place to which its path leads then.  Making
directories touches places where nothing was, and each of them is on the way: one of the paths that
were to be directories leads there.  That holds also where the last of them could not be made.  A
directory that is there already is not made again, so nothing is touched.

**Results.**
* `ensureOutwards_sameBut`, `afterDirectories_sameBut`: what is touched when directories are made.
* `makeDirectories_of_hasDirectory`: making a directory that is there.
-/

namespace CodeAudit
namespace FileSystem

open Entry

/-- Outside of some places there are the same files, links and directories as before, and nothing where
there was nothing. -/
structure SameBut (touched : List String → Prop) (fs later : FileSystem) : Prop where
  current : later.current = fs.current
  same : ∀ place, ¬ touched place → faceAt place later.root = faceAt place fs.root

/-- A directory that was made: nothing was at its place, and one of the paths leads there. -/
structure MadeFor
    (paths : List String)
    (fs later : FileSystem)
    (place : List String) : Prop where
  new : at? place fs.root = none
  made : faceAt place later.root = some (.directory [])
  leads : ∃ path ∈ paths, later.realPath? path = some place

section SameBut

variable {touched touched' written written' : List String → Prop} {fs outer later : FileSystem}

theorem SameBut.refl
    (touched : List String → Prop)
    (fs : FileSystem) :
    SameBut touched fs fs where
  current := rfl
  same _ _ := rfl

theorem SameBut.mono
    (hsame : SameBut touched fs later)
    (htouched : ∀ place, touched place → touched' place) :
    SameBut touched' fs later where
  current := hsame.current
  same place hplace := hsame.same place fun htouch => hplace (htouched place htouch)

theorem SameBut.trans
    (hfirst : SameBut touched fs outer)
    (hsecond : SameBut touched outer later) :
    SameBut touched fs later where
  current := hsecond.current.trans hfirst.current
  same place hplace := (hsecond.same place hplace).trans (hfirst.same place hplace)

theorem Sets.sameBut
    {path name : String}
    {new : Entry}
    {names : List String}
    (hsets : Sets fs path new names name later)
    (hnew : ∀ other, new.child? other = none) :
    SameBut (· = names ++ [name]) fs later where
  current := hsets.extends_later.current
  same _ hplace := hsets.faceAt_eq hnew hplace

/-- Nothing was where nothing is when files have grown. -/
theorem Extends.at?_eq_none
    (hextends : Extends written fs later)
    {place : List String}
    (hnone : at? place later.root = none) :
    at? place fs.root = none := by
  cases hentry : at? place fs.root with
  | none =>
      rfl
  | some entry =>
      obtain ⟨grown, hgrown, -⟩ := hextends.grows place entry hentry
      rw [hnone] at hgrown
      cases hgrown

theorem faceAt_eq_directory_iff
    {place : List String}
    {root : Entry} :
    faceAt place root = some (.directory []) ↔
      ∃ entries, at? place root = some (.directory entries) := by
  rw [faceAt, Option.map_eq_some_iff]
  constructor
  · rintro ⟨entry, hentry, hface⟩
    cases entry with
    | directory entries =>
        exact ⟨entries, hentry⟩
    | file content time | link target =>
        cases hface
  · rintro ⟨entries, hentry⟩
    exact ⟨_, hentry, rfl⟩

/-- A directory that was made is still there when files have grown. -/
theorem MadeFor.kept
    {paths paths' : List String}
    {place : List String}
    (hmade : MadeFor paths fs outer place)
    (hextends : Extends written outer later)
    (hpaths : paths ⊆ paths') :
    MadeFor paths' fs later place where
  new := hmade.new
  made := by
    obtain ⟨entries, hentry⟩ := faceAt_eq_directory_iff.mp hmade.made
    obtain ⟨grown, hgrown, hkept⟩ := hextends.grows place _ hentry
    cases hkept with
    | directory _ entries' =>
        exact faceAt_eq_directory_iff.mpr ⟨entries', hgrown⟩
  leads := by
    obtain ⟨path, hpath, hleads⟩ := hmade.leads
    exact ⟨path, hpaths hpath, realPath?_of_extends hextends hleads⟩

theorem MadeFor.mono
    {paths paths' : List String}
    {place : List String}
    (hmade : MadeFor paths fs later place)
    (hpaths : paths ⊆ paths') :
    MadeFor paths' fs later place :=
  hmade.kept (.refl (fun _ => False) later) hpaths

/-- Directories are made after others. -/
theorem SameBut.made_trans
    {above paths paths' : List String}
    (hfirst : SameBut (MadeFor above fs outer) fs outer)
    (hextends : Extends written fs outer)
    (hsecond : SameBut (MadeFor paths outer later) outer later)
    (hextends' : Extends written' outer later)
    (habove : above ⊆ paths')
    (hpaths : paths ⊆ paths') :
    SameBut (MadeFor paths' fs later) fs later where
  current := hsecond.current.trans hfirst.current
  same place hplace := by
    have hbefore : ¬ MadeFor above fs outer place :=
      fun hmade => hplace (hmade.kept hextends' habove)
    have hafter : ¬ MadeFor paths outer later place := by
      rintro ⟨hnew, hmade, path, hpath, hleads⟩
      exact hplace ⟨hextends.at?_eq_none hnew, hmade, path, hpaths hpath, hleads⟩
    exact (hsecond.same place hafter).trans (hfirst.same place hbefore)

end SameBut

/-! ## Writing a file -/

/-- A file was written at a path, in place of a file or of nothing. -/
structure Wrote
    (fs : FileSystem)
    (path : String)
    (content : ByteArray)
    (place : List String)
    (later : FileSystem) : Prop where
  same : SameBut (· = place) fs later
  grown : Extends (· = place) fs later
  leads : later.realPath? path = some place
  file : at? place later.root = some (.file content fs.now)
  replaced : ∀ old, at? place fs.root = some old → ∃ content time, old = .file content time

theorem exists_wrote
    {fs later : FileSystem}
    {path : String}
    {content : ByteArray}
    (hwrite : fs.writeBytes path content = .ok later) :
    ∃ place, Wrote fs path content place later := by
  obtain ⟨names, name, hsets, -⟩ := writeBytes_sets hwrite
  refine ⟨names ++ [name], hsets.sameBut fun other => rfl,
    hsets.extends_later.mono fun _ => And.left, hsets.leads, hsets.at?_eq, ?_⟩
  intro old hold
  obtain ⟨content, time, _, _, hfile, -⟩ := hsets.replaced old hold
  exact ⟨content, time, hfile⟩

/-! ## Making directories -/

section Making

variable {fs made : FileSystem} {path : String}

theorem makeDirectory_sameBut
    (hmake : fs.makeDirectory path = .ok made) :
    SameBut (MadeFor [path] fs made) fs made := by
  obtain ⟨names, name, hsets⟩ := makeDirectory_sets hmake
  have hsame := hsets.sameBut fun other => rfl
  refine hsame.mono ?_
  rintro place rfl
  refine ⟨?_, faceAt_eq_directory_iff.mpr ⟨[], hsets.at?_eq⟩, path, List.mem_singleton_self path,
    hsets.leads⟩
  cases hold : at? (names ++ [name]) fs.root with
  | none =>
      rfl
  | some old =>
      obtain ⟨_, _, _, _, -, hfile⟩ := hsets.replaced old hold
      cases hfile

theorem ensureDirectory_sameBut
    (hmake : fs.ensureDirectory path = .ok made) :
    SameBut (MadeFor [path] fs made) fs made := by
  unfold ensureDirectory at hmake
  split at hmake
  · split at hmake
    · obtain rfl := Except.ok.inj hmake
      exact .refl _ fs
    · cases hmake
  · exact makeDirectory_sameBut hmake

theorem ensureOutwards_sameBut
    {paths : List String}
    (hmake : fs.ensureOutwards paths = .ok made) :
    SameBut (MadeFor paths fs made) fs made := by
  induction paths generalizing made with
  | nil =>
      obtain rfl := Except.ok.inj hmake
      exact .refl _ fs
  | cons path above ih =>
      have hhead : [path] ⊆ path :: above := by simp
      unfold ensureOutwards at hmake
      split at hmake
      · cases houtwards : fs.ensureOutwards above with
        | error fault =>
            rw [houtwards] at hmake
            cases hmake
        | ok outer =>
            rw [houtwards] at hmake
            exact (ih houtwards).made_trans (ensureOutwards_extends houtwards)
              (ensureDirectory_sameBut hmake) (ensureDirectory_extends hmake)
              (List.subset_cons_self path above) hhead
      · exact (ensureDirectory_sameBut hmake).mono fun _ hmade => hmade.mono hhead

theorem makeDirectories_sameBut
    (hmake : fs.makeDirectories path = .ok made) :
    SameBut (MadeFor (path :: Path.above path) fs made) fs made := by
  unfold makeDirectories at hmake
  split at hmake
  · obtain rfl := Except.ok.inj hmake
    exact .refl _ fs
  · exact ensureOutwards_sameBut hmake

/-- Directories that were made on the way to one that was not. -/
theorem afterOutwards_sameBut
    (fs : FileSystem)
    (paths : List String) :
    SameBut (MadeFor paths fs (fs.afterOutwards paths)) fs (fs.afterOutwards paths) := by
  induction paths with
  | nil =>
      exact .refl _ fs
  | cons path above ih =>
      have hhead : [path] ⊆ path :: above := by simp
      have hrest : above ⊆ path :: above := List.subset_cons_self path above
      unfold afterOutwards
      split
      · next made hmake =>
        exact (ensureDirectory_sameBut hmake).mono fun _ hmade => hmade.mono hhead
      · split
        · next outer houtwards =>
          have houter := ensureOutwards_sameBut houtwards
          cases hmake : outer.ensureDirectory path with
          | ok made =>
              exact houter.made_trans (ensureOutwards_extends houtwards)
                (ensureDirectory_sameBut hmake) (ensureDirectory_extends hmake) hrest hhead
          | error fault =>
              exact houter.mono fun _ hmade => hmade.mono hrest
        · exact ih.mono fun _ hmade => hmade.mono hrest
      · exact .refl _ fs

theorem afterDirectories_sameBut
    (fs : FileSystem)
    (path : String) :
    SameBut (MadeFor (path :: Path.above path) fs (fs.afterDirectories path)) fs
      (fs.afterDirectories path) := by
  unfold afterDirectories
  split
  · exact .refl _ fs
  · exact afterOutwards_sameBut fs _

/-- A walk that does not fail takes each step from a directory. -/
theorem exists_directory_of_append
    {root : Entry}
    {links : Nat}
    {trail : Trail}
    {steps more : List String}
    {step : String}
    (hends : ∀ fault, follow root links trail (steps ++ step :: more) ≠ .failed fault) :
    ∃ ended entries, follow root links trail steps = .arrived ended ∧
      top root ended = .directory entries ∧
      (step = "." ∨ step = ".." ∨ ¬ nameLimit < step.utf8ByteSize) := by
  obtain ⟨ended, hended⟩ := exists_arrived_of_append hends
  have hwalk : ∀ fault, walk root ended (step :: more) ≠ .failed fault := by
    intro fault hfailed
    exact hends fault (follow_append hended hfailed (by simp))
  rw [walk_cons, look] at hwalk
  cases htop : top root ended with
  | file content time | link target =>
      rw [htop] at hwalk
      exact absurd rfl (hwalk .notDirectory)
  | directory entries =>
      refine ⟨ended, entries, hended, htop, ?_⟩
      by_contra hstep
      rw [not_or, not_or, not_not] at hstep
      obtain ⟨hhere, hup, hlong⟩ := hstep
      rw [htop] at hwalk
      simp only [if_neg hhere, if_neg hup, if_pos hlong, proceed] at hwalk
      exact absurd rfl (hwalk .tooLong)

/-- A walk that arrives finds each name in the directory where it takes the step. -/
theorem exists_entry_of_arrived
    {root : Entry}
    {links : Nat}
    {trail last : Trail}
    {steps more : List String}
    {step : String}
    (harrived : follow root links trail (steps ++ step :: more) = .arrived last) :
    ∃ ended entries, follow root links trail steps = .arrived ended ∧
      top root ended = .directory entries ∧
      (step = "." ∨ step = ".." ∨
        ¬ nameLimit < step.utf8ByteSize ∧ (entries.lookup step).isSome = true) := by
  obtain ⟨ended, entries, hended, htop, hstep⟩ := exists_directory_of_append (by
    intro fault
    rw [harrived]
    simp)
  refine ⟨ended, entries, hended, htop, ?_⟩
  by_cases hhere : step = "."
  · exact .inl hhere
  by_cases hup : step = ".."
  · exact .inr (.inl hup)
  have hshort := (hstep.resolve_left hhere).resolve_left hup
  refine .inr (.inr ⟨hshort, ?_⟩)
  cases hlookup : entries.lookup step with
  | some child =>
      rfl
  | none =>
      have hwalk := walk_cons_of_name htop hhere hup hshort more
      rw [hlookup, Look.ofChild?, proceed] at hwalk
      rw [follow_append hended hwalk (by split <;> simp)] at harrived
      split at harrived <;> cases harrived

/-- Nothing can be made where a path leads already. -/
theorem makeDirectory_of_locate
    {trail : Trail}
    (hlocate : fs.locate path = .arrived trail) :
    fs.makeDirectory path = .error .exists := by
  unfold locate at hlocate
  cases hfault : textFault? path with
  | some fault =>
      rw [hfault] at hlocate
      cases hlocate
  | none =>
      rw [hfault] at hlocate
      cases hlast : (Path.parts path).getLast? with
      | none =>
          have hplace : fs.lastPlace path = .error .exists := by
            rw [lastPlace, hfault]
            simp only [hlast]
          rw [makeDirectory, hplace]
          rfl
      | some last =>
          obtain ⟨more, -, hsteps⟩ := Path.steps_eq_concat hlast
          simp only [reach, hsteps] at hlocate
          rw [← List.append_assoc] at hlocate
          obtain ⟨ended, entries, hended, htop, hstep⟩ := exists_entry_of_arrived hlocate
          have hreached : fs.reached ended = .directory entries := htop
          have hplace : fs.lastPlace path = .ok (ended, last) := by
            rw [lastPlace, hfault]
            simp only [hlast, reach, hended, hreached]
            rfl
          rw [makeDirectory, hplace]
          simp only [bind, Except.bind]
          rcases hstep with rfl | rfl | ⟨hshort, hthere⟩
          · rfl
          · rfl
          · have hchild : ((fs.reached ended).child? last).isSome = true := by
              rwa [hreached]
            rw [if_neg hshort, if_pos hchild]
            split <;> rfl

theorem makeDirectories_of_hasDirectory
    (hthere : fs.hasDirectory path = true) :
    fs.makeDirectories path = .ok fs := by
  have hmake : fs.makeDirectory path = .error .exists := by
    unfold hasDirectory entry at hthere
    cases hlocate : fs.locate path with
    | arrived trail =>
        exact makeDirectory_of_locate hlocate
    | absent trail name | failed fault | linked trail target rest =>
        rw [hlocate] at hthere
        cases hthere
  have hensure : fs.ensureDirectory path = .ok fs := by
    rw [ensureDirectory, hmake]
    exact if_pos hthere
  unfold makeDirectories
  split
  · rfl
  · rw [ensureOutwards, hensure]

end Making

end FileSystem
end CodeAudit
