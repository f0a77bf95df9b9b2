import CodeAudit.Proofs.Files.Removal
import CodeAudit.Proofs.Files.Untouched

/-!
# Removing a file

A path names an entry in the directory in which its last part is looked for.  A link there counts as
itself, wherever it leads.  Removing takes this entry out of its directory if it is a file or a link,
and touches nothing else.

Afterwards the path names nothing.  The walk to the directory goes the same way as before, and then the
name is missing, or it is lost because it came by the link that has gone.

**Results.**
* `faceAt_alter`: what is at a place after names were taken out.
* `removeFile_cases`, `exists_removeFile`: what is removed, and that it can be.
* `removeFile_sameBut`: what removing leaves untouched.
* `isTaken_removeFile`: the path after its entry was removed.
* `readText_of_names_directory`: a path that names a directory holds no text.
-/

namespace CodeAudit

/-! ## Places in a tree without some entries -/

namespace Spot

open Entry

variable {spot : Spot} {root : Entry} {place : List String}

@[simp] theorem face_alterAt
    (place : List String)
    (entry : Entry) :
    (spot.alterAt place entry).face = entry.face := by
  rcases spot.alterAt_cases place entry with hsame | ⟨entries, altered, rfl, haltered⟩
  · rw [hsame]
  · rw [haltered]
    rfl

/-- At a clear place is what becomes of the entry that was there. -/
theorem at?_alterAt
    (place : List String)
    {rest : List String}
    (hclear : spot.Clear (place ++ rest))
    (entry : Entry) :
    at? rest (spot.alterAt place entry) = (at? rest entry).map (spot.alterAt (place ++ rest)) := by
  induction rest generalizing place entry with
  | nil =>
      rw [List.append_nil]
      rfl
  | cons next rest ih =>
      cases entry with
      | file content time =>
          rw [alterAt_file]
          rfl
      | link target =>
          rw [alterAt_link]
          rfl
      | directory entries =>
          obtain ⟨altered, haltered, hlookup⟩ := spot.lookup_alterAt place entries next
          have hsteps : place ++ next :: rest = place ++ [next] ++ rest := List.append_cons _ _ _
          have hkept : ¬ (place = spot.names ∧ spot.gone next = true) := by
            rintro ⟨rfl, hgone⟩
            exact hclear next hgone (hsteps ▸ List.prefix_append _ rest)
          rw [if_neg hkept] at hlookup
          rw [haltered, at?_directory, at?_directory, hlookup]
          cases entries.lookup next with
          | none =>
              rfl
          | some found =>
              rw [hsteps] at hclear ⊢
              exact ih (place ++ [next]) hclear found

theorem at?_alter
    (hclear : spot.Clear place) :
    at? place (spot.alter root) = (at? place root).map (spot.alterAt place) :=
  at?_alterAt [] hclear root

/-- Nothing is at a place that was taken out. -/
theorem at?_alter_of_gone
    (spot : Spot)
    {name : String}
    (hgone : spot.gone name = true) :
    at? (spot.names ++ [name]) (spot.alter root) = none := by
  have hclear : spot.Clear spot.names := by
    intro other _ hbelow
    exact absurd hbelow.length_le (by simp)
  rw [at?_concat, at?_alter hclear]
  cases at? spot.names root with
  | none =>
      rfl
  | some above =>
      rw [Option.map_some, Option.bind_some]
      cases above with
      | file content time =>
          rw [alterAt_file]
          rfl
      | link target =>
          rw [alterAt_link]
          rfl
      | directory entries =>
          obtain ⟨altered, haltered, hlookup⟩ := spot.lookup_alterAt spot.names entries name
          rw [if_pos ⟨rfl, hgone⟩] at hlookup
          rw [haltered]
          exact hlookup

/-- Where nothing with entries of its own is taken out, nothing else changes. -/
theorem faceAt_alter
    (hleaf : ∀ name, spot.gone name = true → ∀ old, at? (spot.names ++ [name]) root = some old →
      ∀ other, old.child? other = none)
    (hplace : ∀ name, spot.gone name = true → place ≠ spot.names ++ [name]) :
    faceAt place (spot.alter root) = faceAt place root := by
  by_cases hclear : spot.Clear place
  · rw [faceAt, faceAt, at?_alter hclear, Option.map_map]
    exact congrArg (Option.map · _) (funext fun entry => face_alterAt place entry)
  · -- The place is below one that goes, so that nothing was there.
    unfold Clear at hclear
    push Not at hclear
    obtain ⟨name, hgone, rest, rfl⟩ := hclear
    cases rest with
    | nil =>
        exact absurd (List.append_nil _) (hplace name hgone)
    | cons next rest =>
        rw [faceAt, faceAt, at?_append, at?_alter_of_gone spot hgone, at?_append]
        cases hold : at? (spot.names ++ [name]) root with
        | none =>
            rfl
        | some old =>
            rw [Option.bind_some, at?_cons_of_childless (hleaf name hgone old hold)]
            rfl

end Spot

namespace FileSystem

open Entry

/-! ## What a path names -/

/-- A path names an entry at a place. -/
def Names
    (fs : FileSystem)
    (path : String)
    (place : List String)
    (entry : Entry) : Prop :=
  ∃ trail name, fs.named path = .ok (trail, name, entry) ∧ place = trailNames trail ++ [name]

/-- Whether a path names an entry. -/
def isTaken (fs : FileSystem) (path : String) : Bool := (fs.named path).isOk

section Naming

variable {fs later : FileSystem} {path name : String} {trail : Trail} {found : Entry}

theorem isTaken_iff :
    fs.isTaken path = true ↔ ∃ place entry, fs.Names path place entry := by
  unfold isTaken Names
  cases hnamed : fs.named path with
  | error fault =>
      simp [Except.isOk, Except.toBool]
  | ok found =>
      obtain ⟨trail, name, entry⟩ := found
      simp only [Except.isOk, Except.toBool, true_iff]
      exact ⟨_, entry, trail, name, rfl, rfl⟩

/-- What is checked of a path that names an entry. -/
theorem named_cases
    (hnamed : fs.named path = .ok (trail, name, found)) :
    fs.lastPlace path = .ok (trail, name) ∧
      (name ≠ "." ∧ name ≠ ".." ∧ ¬ nameLimit < name.utf8ByteSize) ∧
      (top fs.root trail).child? name = some found := by
  unfold named at hnamed
  cases hplace : fs.lastPlace path with
  | error fault =>
      rw [hplace] at hnamed
      cases hnamed
  | ok last =>
      obtain ⟨trail', name'⟩ := last
      rw [hplace] at hnamed
      simp only [bind, Except.bind] at hnamed
      split at hnamed
      · cases hnamed
      · next hdots =>
        split at hnamed
        · cases hnamed
        · next hshort =>
          split at hnamed
          · cases hnamed
          · next entry hchild =>
            split at hnamed
            · cases hnamed
            · cases hnamed
              rw [Bool.or_eq_true, decide_eq_true_iff, decide_eq_true_iff, not_or] at hdots
              exact ⟨rfl, ⟨hdots.1, hdots.2, hshort⟩, hchild⟩

/-- The entry that a path names is in the tree. -/
theorem at?_of_named
    (hnamed : fs.named path = .ok (trail, name, found)) :
    at? (trailNames trail ++ [name]) fs.root = some found := by
  obtain ⟨hplace, -, hchild⟩ := named_cases hnamed
  obtain ⟨-, -, hreach, -⟩ := lastPlace_cases hplace
  rw [at?_concat, (rooted_of_reach hreach).at?_trailNames, Option.bind_some, hchild]

/-- A path that names a directory leads to it, so that no text is read there. -/
theorem readText_of_names_directory
    {place : List String}
    (hnames : fs.Names path place found)
    (hdirectory : found.isDirectory = true) :
    ∃ fault, fs.readText path = .error fault := by
  obtain ⟨trail, name, hnamed, -⟩ := hnames
  obtain ⟨hplace, hname, hchild⟩ := named_cases hnamed
  obtain ⟨hfault, hlast, hreach, -⟩ := lastPlace_cases hplace
  cases found with
  | file content time | link target =>
      cases hdirectory
  | directory entries =>
      have hleads := realPath?_of_reach hfault hlast hreach hname hchild
      refine ⟨.isDirectory, ?_⟩
      rw [readText, readBytes, entry_of_realPath? hleads (at?_of_named hnamed)]
      rfl

/-! ## Removing what is named -/

theorem child?_of_not_directory
    (hfound : found.isDirectory = false)
    (other : String) :
    found.child? other = none := by
  cases found with
  | file content time | link target =>
      rfl
  | directory entries =>
      cases hfound

/-- A file or a link was removed: the one that the path names. -/
theorem removeFile_cases
    (hremove : fs.removeFile path = .ok later) :
    ∃ trail name found, fs.named path = .ok (trail, name, found) ∧ found.isDirectory = false ∧
      later = fs.without ⟨trailNames trail, (· == name)⟩ := by
  unfold removeFile at hremove
  split at hremove
  · next trail name found hnamed =>
    split at hremove
    · cases hremove
    · next hfound =>
      exact ⟨trail, name, found, hnamed, Bool.eq_false_iff.mpr hfound,
        (Except.ok.inj hremove).symm⟩
  all_goals cases hremove

/-- A file or a link that is named can be removed. -/
theorem exists_removeFile
    {place : List String}
    (hnames : fs.Names path place found)
    (hfound : found.isDirectory = false) :
    ∃ later, fs.removeFile path = .ok later := by
  obtain ⟨trail, name, hnamed, -⟩ := hnames
  refine ⟨fs.changed (trailNames trail) (removeIn name), ?_⟩
  rw [removeFile, hnamed]
  simp only [hfound, Bool.false_eq_true, if_false]

/-- Removing touches the entry that the path names. -/
theorem removeFile_sameBut
    (hremove : fs.removeFile path = .ok later) :
    SameBut (fun place => ∃ entry, fs.Names path place entry) fs later := by
  obtain ⟨trail, name, found, hnamed, hfound, rfl⟩ := removeFile_cases hremove
  refine ⟨rfl, fun place hplace => Spot.faceAt_alter ?_ ?_⟩
  · rintro other hother old hold
    obtain rfl := beq_iff_eq.mp hother
    rw [at?_of_named hnamed] at hold
    obtain rfl := Option.some.inj hold
    exact child?_of_not_directory hfound
  · rintro other hother rfl
    obtain rfl := beq_iff_eq.mp hother
    exact hplace ⟨found, trail, other, hnamed, rfl⟩

/-- A walk that arrives without some entries arrives where it did with them. -/
theorem arrived_without
    {spot : Spot}
    {steps : List String}
    {trail' : Trail}
    (hbefore : fs.reach steps = .arrived trail)
    (hafter : (fs.without spot).reach steps = .arrived trail') :
    trailNames trail' = trailNames trail := by
  unfold reach at hbefore hafter
  rcases follow_without spot fs.root 41 [] steps with hsame | ⟨hlost, -⟩
  · rw [hbefore] at hsame
    obtain rfl := Walk.arrived.inj (hafter.symm.trans hsame)
    exact trailNames_alterTrail trail
  · change (follow (fs.without spot).root 41 [] steps).Lost at hlost
    rw [hafter] at hlost
    exact hlost.elim

/-- A path names nothing after its entry was removed. -/
theorem isTaken_removeFile
    (hremove : fs.removeFile path = .ok later) :
    later.isTaken path = false := by
  obtain ⟨trail, name, found, hnamed, -, rfl⟩ := removeFile_cases hremove
  rw [Bool.eq_false_iff, ne_eq, isTaken_iff]
  rintro ⟨_, found', trail', name', hnamed', -⟩
  obtain ⟨-, hlast, hreach, -⟩ := lastPlace_cases (named_cases hnamed).1
  obtain ⟨-, hlast', hreach', -⟩ := lastPlace_cases (named_cases hnamed').1
  obtain rfl : name = name' := Option.some.inj (hlast.symm.trans hlast')
  have hthere := at?_of_named hnamed'
  rw [arrived_without hreach hreach'] at hthere
  have hgone : at? (trailNames trail ++ [name])
      (Spot.alter ⟨trailNames trail, (· == name)⟩ fs.root) = none :=
    Spot.at?_alter_of_gone ⟨trailNames trail, (· == name)⟩ (beq_self_eq_true name)
  cases hgone.symm.trans hthere

end Naming

end FileSystem
end CodeAudit
