import CodeAudit.Proofs.Files.Change
import CodeAudit.Proofs.Files.Path
import CodeAudit.Proofs.Files.Visits

/-!
# Files without some entries

Some entries are taken out of a directory.  A walk that never looks at one of them goes the same way
on the files with and without them, so what it finds is the same, and so is what is made or removed
there.  In any case a walk that arrives without the entries arrives with them.

**Results.**
* `look_without`, `walk_without`, `follow_without`: a step, a walk, and a walk along links.
* `hasFile_of_avoids`, `readText_of_avoids`, `realPath?_of_avoids`: what is at a path.
* `entry_of_without`: what is there without the entries is there with them.
* `makeDirectories_of_opensClear`, `afterDirectories_of_opensClear`, `remove_of_avoids`: what is made and
  removed.
-/

namespace CodeAudit

/-! ## A walk with and without some entries -/

namespace Spot

open FileSystem Entry

/-- What becomes of a trail when names are taken out. -/
def alterTrail (spot : Spot) : Trail → Trail
  | [] => []
  | (name, entry) :: above =>
    (name, spot.alterAt (trailNames above ++ [name]) entry) :: alterTrail spot above

/-- What becomes of what a walk finds at a place when names are taken out. -/
def alterLook (spot : Spot) (place : List String) : Look → Look
  | .moved trail => .moved (spot.alterTrail trail)
  | .entry entry => .entry (spot.alterAt place entry)
  | .barred => .barred
  | .tooLong => .tooLong
  | .nothing => .nothing
  | .link target => .link target

/-- What becomes of the end of a walk when names are taken out. -/
def alterWalk (spot : Spot) : Walk → Walk
  | .arrived trail => .arrived (spot.alterTrail trail)
  | .absent trail name => .absent (spot.alterTrail trail) name
  | .failed fault => .failed fault
  | .linked trail target rest => .linked (spot.alterTrail trail) target rest

end Spot

namespace FileSystem

open Entry

/-- A walk does not arrive and does not come to a link. -/
def Walk.Lost : Walk → Prop
  | .absent _ _ | .failed _ => True
  | .arrived _ | .linked _ _ _ => False

section Without

variable {spot : Spot} {root : Entry}

@[simp] theorem trailNames_alterTrail
    (trail : Trail) :
    trailNames (spot.alterTrail trail) = trailNames trail := by
  induction trail with
  | nil =>
      rfl
  | cons first above ih =>
      obtain ⟨name, entry⟩ := first
      rw [Spot.alterTrail, trailNames_cons, trailNames_cons, ih]

theorem alterTrail_drop
    (trail : Trail) :
    (spot.alterTrail trail).drop 1 = spot.alterTrail (trail.drop 1) := by
  cases trail with
  | nil =>
      rfl
  | cons first above =>
      rfl

theorem top_alterTrail
    (trail : Trail) :
    top (spot.alter root) (spot.alterTrail trail) =
      spot.alterAt (trailNames trail) (top root trail) := by
  cases trail with
  | nil =>
      rfl
  | cons first above =>
      obtain ⟨name, entry⟩ := first
      rw [trailNames_cons]
      rfl

theorem ofChild?_map
    (place : List String)
    (child : Option Entry) :
    Look.ofChild? (child.map (spot.alterAt place)) =
      spot.alterLook place (Look.ofChild? child) := by
  cases child with
  | none =>
      rfl
  | some child =>
      cases child with
      | file content written =>
          simp [Look.ofChild?, Spot.alterLook]
      | link target =>
          simp [Look.ofChild?, Spot.alterLook]
      | directory entries =>
          obtain ⟨altered, haltered, -⟩ := spot.lookup_alterAt place entries ""
          simp [Look.ofChild?, Spot.alterLook, haltered]

/-- A step finds the same, or nothing where it has looked at something that goes. -/
theorem look_without
    (spot : Spot)
    (root : Entry)
    (trail : Trail)
    (step : String) :
    look (spot.alter root) (spot.alterTrail trail) step =
        spot.alterLook (trailNames trail ++ [step]) (look root trail step) ∨
      look (spot.alter root) (spot.alterTrail trail) step = .nothing ∧
        ∃ seen ∈ (look root trail step).visits (trailNames trail ++ [step]), ¬ spot.Clear seen := by
  cases htop : top root trail with
  | file content written =>
      left
      simp [look, top_alterTrail, htop, Spot.alterLook]
  | link target =>
      left
      simp [look, top_alterTrail, htop, Spot.alterLook]
  | directory entries =>
      obtain ⟨altered, haltered, hlookup⟩ := spot.lookup_alterAt (trailNames trail) entries step
      simp only [look, top_alterTrail, htop, haltered]
      by_cases hhere : step = "."
      · left
        simp only [if_pos hhere, Spot.alterLook]
      · by_cases hup : step = ".."
        · left
          simp only [if_neg hhere, if_pos hup, Spot.alterLook, alterTrail_drop]
        · simp only [if_neg hhere, if_neg hup]
          by_cases hlong : nameLimit < step.utf8ByteSize
          · left
            simp only [if_pos hlong, Spot.alterLook]
          · -- Only here the step has looked at an entry.
            simp only [if_neg hlong, hlookup]
            by_cases hgone : trailNames trail = spot.names ∧ spot.gone step = true
            · right
              refine ⟨by rw [if_pos hgone]; rfl, trailNames trail ++ [step], ?_, ?_⟩
              · rw [Look.visits_ofChild?]
                exact List.mem_singleton_self _
              · intro hclear
                exact hclear step hgone.2 (hgone.1 ▸ List.prefix_rfl)
            · left
              rw [if_neg hgone, ofChild?_map]

/-- A walk ends in the same manner, or it is lost because it has looked at something that goes. -/
theorem walk_without
    (spot : Spot)
    (root : Entry)
    (trail : Trail)
    (steps : List String) :
    walk (spot.alter root) (spot.alterTrail trail) steps = spot.alterWalk (walk root trail steps) ∨
      (walk (spot.alter root) (spot.alterTrail trail) steps).Lost ∧
        ∃ seen ∈ walkVisits root trail steps, ¬ spot.Clear seen := by
  induction steps generalizing trail with
  | nil =>
      exact .inl rfl
  | cons step rest ih =>
      rw [walk_cons, walk_cons, walkVisits]
      simp only [List.mem_append]
      rcases look_without spot root trail step with hsame | ⟨hnothing, hgone⟩
      · rw [hsame]
        cases hlook : look root trail step with
        | moved trail =>
            rcases ih trail with heq | ⟨hlost, hgone⟩
            · exact .inl heq
            · obtain ⟨seen, hseen, hgone⟩ := hgone
              exact .inr ⟨hlost, seen, .inr hseen, hgone⟩
        | entry entry =>
            rcases ih ((step, entry) :: trail) with heq | ⟨hlost, hgone⟩
            · exact .inl heq
            · obtain ⟨seen, hseen, hgone⟩ := hgone
              exact .inr ⟨hlost, seen, .inr hseen, hgone⟩
        | nothing =>
            left
            simp only [Spot.alterLook, proceed]
            split <;> rfl
        | barred | tooLong | link target =>
            exact .inl rfl
      · obtain ⟨seen, hseen, hgone⟩ := hgone
        refine .inr ⟨?_, seen, .inl hseen, hgone⟩
        rw [hnothing, proceed]
        split <;> trivial

/-- A walk along links ends in the same manner, or it is lost for that reason. -/
theorem follow_without
    (spot : Spot)
    (root : Entry)
    (links : Nat)
    (trail : Trail)
    (steps : List String) :
    follow (spot.alter root) links (spot.alterTrail trail) steps =
        spot.alterWalk (follow root links trail steps) ∨
      (follow (spot.alter root) links (spot.alterTrail trail) steps).Lost ∧
        ∃ seen ∈ followVisits root links trail steps, ¬ spot.Clear seen := by
  induction links generalizing trail steps with
  | zero =>
      exact .inl rfl
  | succ links ih =>
      rw [follow, follow, followVisits]
      simp only [List.mem_append]
      rcases walk_without spot root trail steps with hsame | ⟨hlost, seen, hseen, hgone⟩
      · rw [hsame]
        cases hwalk : walk root trail steps with
        | linked ended target rest =>
            have hstart : (if Path.isAbsolute target then [] else spot.alterTrail ended) =
                spot.alterTrail (if Path.isAbsolute target then [] else ended) := by
              split <;> rfl
            simp only [Spot.alterWalk, hstart]
            rcases ih (if Path.isAbsolute target then [] else ended) (Path.steps target ++ rest) with
              heq | ⟨hlost, seen, hseen, hgone⟩
            · exact .inl heq
            · exact .inr ⟨hlost, seen, .inr hseen, hgone⟩
        | arrived ended | absent ended name | failed fault =>
            exact .inl rfl
      · refine .inr ⟨?_, seen, .inl hseen, hgone⟩
        cases hwalk : walk (spot.alter root) (spot.alterTrail trail) steps with
        | absent ended name | failed fault =>
            trivial
        | arrived ended | linked ended target rest =>
            rw [hwalk] at hlost
            cases hlost

end Without

/-! ## Walks that keep clear -/

section Clear

variable {spot : Spot} {root : Entry}

/-- The trail that a walk ends with, if it has one. -/
def Walk.trail? : Walk → Option Trail
  | .arrived trail | .absent trail _ | .linked trail _ _ => some trail
  | .failed _ => none

theorem clear_of_walk
    {trail ended : Trail}
    {steps : List String}
    (hclear : spot.Clear (trailNames trail))
    (hvisits : ∀ seen ∈ walkVisits root trail steps, spot.Clear seen)
    (hended : (walk root trail steps).trail? = some ended) :
    spot.Clear (trailNames ended) := by
  induction steps generalizing trail with
  | nil =>
      obtain rfl := Option.some.inj hended
      exact hclear
  | cons step rest ih =>
      rw [walk_cons] at hended
      rw [walkVisits] at hvisits
      simp only [List.mem_append] at hvisits
      cases hlook : look root trail step with
      | moved moved =>
          rw [hlook] at hended hvisits
          exact ih (hclear.mono (prefix_of_moved hlook)) (fun seen h => hvisits seen (.inr h)) hended
      | entry entry =>
          rw [hlook] at hended hvisits
          refine ih ?_ (fun seen h => hvisits seen (.inr h)) hended
          rw [trailNames_cons]
          exact hvisits _ (.inl (List.mem_singleton_self _))
      | nothing =>
          rw [hlook, proceed] at hended
          split at hended
          · obtain rfl := Option.some.inj hended
            exact hclear
          · cases hended
      | link target =>
          rw [hlook] at hended
          obtain rfl := Option.some.inj hended
          exact hclear
      | barred | tooLong =>
          rw [hlook] at hended
          cases hended

theorem clear_of_follow
    {links : Nat}
    {trail ended : Trail}
    {steps : List String}
    (hclear : spot.Clear (trailNames trail))
    (hvisits : ∀ seen ∈ followVisits root links trail steps, spot.Clear seen)
    (hended : (follow root links trail steps).trail? = some ended) :
    spot.Clear (trailNames ended) := by
  induction links generalizing trail steps with
  | zero =>
      cases hended
  | succ links ih =>
      rw [follow] at hended
      rw [followVisits] at hvisits
      simp only [List.mem_append] at hvisits
      have hwalked : ∀ seen ∈ walkVisits root trail steps, spot.Clear seen :=
        fun seen h => hvisits seen (.inl h)
      cases hwalk : walk root trail steps with
      | linked here target rest =>
          rw [hwalk] at hended hvisits
          refine ih ?_ (fun seen h => hvisits seen (.inr h)) hended
          split
          · exact spot.clear_nil
          · exact clear_of_walk hclear hwalked (by rw [hwalk]; rfl)
      | arrived here | absent here name | failed fault =>
          rw [hwalk] at hended
          exact clear_of_walk hclear hwalked (by rw [hwalk]; exact hended)

end Clear

/-! ## What is at a path -/

section Paths

variable {spot : Spot} {fs : FileSystem} {path : String}

/-- The files without the names that are taken out. -/
def without (fs : FileSystem) (spot : Spot) : FileSystem :=
  fs.changed spot.names (trim spot.gone)

/-- No walk to a path looks at anything that goes. -/
def Avoids (fs : FileSystem) (spot : Spot) (path : String) : Prop :=
  ∀ seen ∈ fs.visits path, spot.Clear seen

theorem avoids_of_outside
    (houtside : ∀ seen ∈ fs.visits path, ¬ spot.names <+: seen) :
    fs.Avoids spot path :=
  fun seen hseen => Spot.clear_of_outside (houtside seen hseen)

theorem locate_without
    (spot : Spot)
    (fs : FileSystem)
    (path : String) :
    (fs.without spot).locate path = spot.alterWalk (fs.locate path) ∨
      ((fs.without spot).locate path).Lost ∧ ¬ fs.Avoids spot path := by
  unfold locate
  cases textFault? path with
  | some fault =>
      exact .inl rfl
  | none =>
      rcases follow_without spot fs.root 41 [] (fs.start path ++ Path.steps path) with
        hsame | ⟨hlost, seen, hseen, hgone⟩
      · exact .inl hsame
      · exact .inr ⟨hlost, fun havoids => hgone (havoids seen hseen)⟩

theorem locate_of_avoids
    (havoids : fs.Avoids spot path) :
    (fs.without spot).locate path = spot.alterWalk (fs.locate path) := by
  rcases locate_without spot fs path with hsame | ⟨-, hlooks⟩
  · exact hsame
  · exact absurd havoids hlooks

theorem reached_alterTrail
    (trail : Trail) :
    (fs.without spot).reached (spot.alterTrail trail) =
      spot.alterAt (trailNames trail) (fs.reached trail) :=
  top_alterTrail trail

theorem entry_of_locate
    (hlocate : (fs.without spot).locate path = spot.alterWalk (fs.locate path)) :
    (fs.without spot).entry path = fs.entry path ∨
      ∃ entries altered, fs.entry path = .ok (.directory entries) ∧
        (fs.without spot).entry path = .ok (.directory altered) := by
  unfold entry
  rw [hlocate]
  cases fs.locate path with
  | arrived trail =>
      simp only [Spot.alterWalk, reached_alterTrail]
      rcases spot.alterAt_cases (trailNames trail) (fs.reached trail) with
        hsame | ⟨entries, altered, hwith, hwithout⟩
      · exact .inl (congrArg Except.ok hsame)
      · exact .inr ⟨entries, altered, congrArg Except.ok hwith, congrArg Except.ok hwithout⟩
  | absent trail name | failed fault | linked trail target rest =>
      exact .inl rfl

/-- What is at a path that keeps clear is there with and without the names; only a directory may
have fewer entries. -/
theorem entry_of_avoids
    (havoids : fs.Avoids spot path) :
    (fs.without spot).entry path = fs.entry path ∨
      ∃ entries altered, fs.entry path = .ok (.directory entries) ∧
        (fs.without spot).entry path = .ok (.directory altered) :=
  entry_of_locate (locate_of_avoids havoids)

theorem hasFile_of_avoids
    (havoids : fs.Avoids spot path) :
    (fs.without spot).hasFile path = fs.hasFile path := by
  rcases entry_of_avoids havoids with hsame | ⟨entries, altered, hwith, hwithout⟩
  · simp only [hasFile, hsame]
  · simp only [hasFile, hwith, hwithout]

theorem hasDirectory_of_avoids
    (havoids : fs.Avoids spot path) :
    (fs.without spot).hasDirectory path = fs.hasDirectory path := by
  rcases entry_of_avoids havoids with hsame | ⟨entries, altered, hwith, hwithout⟩
  · simp only [hasDirectory, hsame]
  · simp only [hasDirectory, hwith, hwithout]

theorem readText_of_avoids
    (havoids : fs.Avoids spot path) :
    (fs.without spot).readText path = fs.readText path := by
  rcases entry_of_avoids havoids with hsame | ⟨entries, altered, hwith, hwithout⟩
  · simp only [readText, readBytes, hsame]
  · simp only [readText, readBytes, hwith, hwithout]
    rfl

theorem realPath?_of_avoids
    (havoids : fs.Avoids spot path) :
    (fs.without spot).realPath? path = fs.realPath? path := by
  unfold realPath?
  rw [locate_of_avoids havoids]
  cases fs.locate path with
  | arrived trail =>
      exact congrArg some (trailNames_alterTrail trail)
  | absent trail name | failed fault | linked trail target rest =>
      rfl

/-- What is there without the names is there with them, however a walk comes to it; only a directory
may have more entries. -/
theorem entry_of_without
    {entry : Entry}
    (hentry : (fs.without spot).entry path = .ok entry) :
    fs.entry path = .ok entry ∨
      ∃ entries altered, fs.entry path = .ok (.directory entries) ∧
        entry = .directory altered := by
  rcases locate_without spot fs path with hsame | ⟨hlost, -⟩
  · rcases entry_of_locate hsame with heq | ⟨entries, altered, hwith, hwithout⟩
    · exact .inl (heq ▸ hentry)
    · exact .inr ⟨entries, altered, hwith, Except.ok.inj (hentry.symm.trans hwithout)⟩
  · unfold FileSystem.entry at hentry
    cases hlocate : (fs.without spot).locate path with
    | absent trail name | failed fault =>
        rw [hlocate] at hentry
        cases hentry
    | arrived trail | linked trail target rest =>
        rw [hlocate] at hlost
        cases hlost

/-- The place of an entry that a walk comes to clear of what goes. -/
theorem clear_of_realPath?
    (havoids : fs.Avoids spot path)
    {names : List String}
    (hnames : fs.realPath? path = some names) :
    spot.Clear names := by
  unfold realPath? at hnames
  unfold locate at hnames
  cases hfault : textFault? path with
  | some fault =>
      rw [hfault] at hnames
      cases hnames
  | none =>
      rw [hfault] at hnames
      cases hreach : fs.reach (fs.start path ++ Path.steps path) with
      | arrived trail =>
          rw [hreach] at hnames
          obtain rfl := Option.some.inj hnames
          have hroot : spot.Clear (trailNames []) := spot.clear_nil
          exact clear_of_follow hroot havoids (congrArg Walk.trail? hreach)
      | absent trail name | failed fault | linked trail target rest =>
          rw [hreach] at hnames
          cases hnames

end Paths

/-! ## What is made and removed -/

section Changes

variable {spot : Spot} {fs : FileSystem} {path : String}

/-- The steps to a path end with its last part, and perhaps a dot. -/
theorem steps_of_getLast?
    (fs : FileSystem)
    {last : String}
    (hlast : (Path.parts path).getLast? = some last) :
    ∃ more, fs.start path ++ Path.steps path =
      (fs.start path ++ (Path.parts path).dropLast) ++ last :: more := by
  obtain ⟨more, -, hsteps⟩ := Path.steps_eq_concat hlast
  exact ⟨more, by rw [hsteps, List.append_assoc]⟩

theorem reach_of_avoids
    {before after : List String}
    (havoids : fs.Avoids spot path)
    (hsteps : fs.start path ++ Path.steps path = before ++ after) :
    (fs.without spot).reach before = spot.alterWalk (fs.reach before) := by
  rcases follow_without spot fs.root 41 [] before with hsame | ⟨-, seen, hseen, hgone⟩
  · exact hsame
  · refine absurd (havoids seen ?_) hgone
    rw [visits, hsteps]
    exact followVisits_subset_append 41 [] before after hseen

/-- The directory of the last part of a path is found with and without the names. -/
theorem lastPlace_of_avoids
    (havoids : fs.Avoids spot path) :
    (fs.without spot).lastPlace path =
      (fs.lastPlace path).map fun found => (spot.alterTrail found.1, found.2) := by
  unfold lastPlace
  cases textFault? path with
  | some fault =>
      rfl
  | none =>
      cases hlast : (Path.parts path).getLast? with
      | none =>
          rfl
      | some last =>
          obtain ⟨more, hsteps⟩ := steps_of_getLast? fs hlast
          have hreach := reach_of_avoids havoids hsteps
          have hstart : (fs.without spot).start path = fs.start path := rfl
          simp only [hstart, hreach]
          cases fs.reach (fs.start path ++ (Path.parts path).dropLast) with
          | arrived trail =>
              simp only [Spot.alterWalk, reached_alterTrail, Spot.isDirectory_alterAt]
              split <;> rfl
          | absent trail name | failed fault | linked trail target rest =>
              rfl

/-- The place of the last part of a path that keeps clear is clear. -/
theorem clear_of_lastPlace
    (havoids : fs.Avoids spot path)
    {trail : Trail}
    {last : String}
    (hplace : fs.lastPlace path = .ok (trail, last))
    (hhere : last ≠ ".")
    (hup : last ≠ "..") :
    spot.Clear (trailNames trail ++ [last]) := by
  unfold lastPlace at hplace
  split at hplace
  · cases hplace
  · split at hplace
    · cases hplace
    · next name hlast =>
        obtain ⟨more, hsteps⟩ := steps_of_getLast? fs hlast
        split at hplace
        · next found hreach =>
            split at hplace
            · next hdirectory =>
                obtain ⟨rfl, rfl⟩ := Prod.mk.inj (Except.ok.inj hplace)
                apply havoids
                rw [visits, hsteps]
                apply mem_followVisits_of_arrived hreach
                exact mem_visits_look hdirectory hhere hup
            · cases hplace
        all_goals cases hplace

theorem child?_alterAt
    {place : List String}
    {name : String}
    (hclear : spot.Clear (place ++ [name]))
    (entry : Entry) :
    ((spot.alterAt place entry).child? name).isSome = (entry.child? name).isSome := by
  cases entry with
  | file content written =>
      rw [Spot.alterAt_file]
  | link target =>
      rw [Spot.alterAt_link]
  | directory entries =>
      obtain ⟨altered, haltered, hlookup⟩ := spot.lookup_alterAt place entries name
      have hkept : ¬ (place = spot.names ∧ spot.gone name = true) := by
        rintro ⟨rfl, hgone⟩
        exact hclear name hgone List.prefix_rfl
      rw [if_neg hkept] at hlookup
      rw [haltered]
      change (altered.lookup name).isSome = (entries.lookup name).isSome
      rw [hlookup, Option.isSome_map]

theorem changed_setIn_without
    {names : List String}
    {name : String}
    (hclear : spot.Clear (names ++ [name])) :
    (fs.without spot).changed names (setIn name (.directory [])) =
      (fs.changed names (setIn name (.directory []))).without spot := by
  have hempty : ∀ rest, changeAt (trim spot.gone) rest (.directory []) = .directory [] := by
    intro rest
    cases rest <;> rfl
  have hroot := Spot.changeAt_setIn_comm hclear hempty fs.root
  unfold without changed
  exact congrArg (fun root => { fs with root }) hroot

/-- A directory is made alike with and without the names. -/
theorem makeDirectory_of_avoids
    (havoids : fs.Avoids spot path) :
    (fs.without spot).makeDirectory path = (fs.makeDirectory path).map (without · spot) := by
  unfold makeDirectory
  rw [lastPlace_of_avoids havoids]
  cases hplace : fs.lastPlace path with
  | error fault =>
      rfl
  | ok found =>
      obtain ⟨trail, last⟩ := found
      simp only [Except.map, bind, Except.bind]
      by_cases hdots : last = "." ∨ last = ".."
      · have hdots' : (decide (last = ".") || decide (last = "..")) = true := by simpa using hdots
        rw [if_pos hdots', if_pos hdots']
        rfl
      · rw [not_or] at hdots
        have hclear := clear_of_lastPlace havoids hplace hdots.1 hdots.2
        simp only [reached_alterTrail, child?_alterAt hclear, trailNames_alterTrail,
          changed_setIn_without hclear]
        split
        · rfl
        · split
          · rfl
          · split <;> rfl

theorem ensureDirectory_of_avoids
    (havoids : fs.Avoids spot path) :
    (fs.without spot).ensureDirectory path = (fs.ensureDirectory path).map (without · spot) := by
  unfold ensureDirectory
  rw [makeDirectory_of_avoids havoids]
  cases fs.makeDirectory path with
  | ok made =>
      rfl
  | error fault =>
      cases fault with
      | «exists» =>
          simp only [Except.map, hasDirectory_of_avoids havoids]
          split <;> rfl
      | _ =>
          rfl

/-- The paths that are looked at to make the first of some directories keep clear. -/
def OpensClear (fs : FileSystem) (spot : Spot) : List String → Prop
  | [] => True
  | path :: above =>
    fs.Avoids spot path ∧
      (fs.ensureDirectory path = .error .missing →
        OpensClear fs spot above ∧
          ∀ made, fs.ensureOutwards above = .ok made → made.Avoids spot path)

theorem ensureOutwards_of_opensClear
    {paths : List String}
    (hopens : fs.OpensClear spot paths) :
    (fs.without spot).ensureOutwards paths = (fs.ensureOutwards paths).map (without · spot) := by
  induction paths with
  | nil =>
      rfl
  | cons path above ih =>
      obtain ⟨havoids, hmissing⟩ := hopens
      unfold ensureOutwards
      rw [ensureDirectory_of_avoids havoids]
      cases hensure : fs.ensureDirectory path with
      | ok made =>
          rfl
      | error fault =>
          cases fault with
          | missing =>
              obtain ⟨habove, hmade⟩ := hmissing hensure
              simp only [Except.map, ih habove]
              cases houtwards : fs.ensureOutwards above with
              | error fault =>
                  rfl
              | ok made =>
                  exact ensureDirectory_of_avoids (hmade made houtwards)
          | _ =>
              rfl

theorem makeDirectories_of_opensClear
    (hopens : fs.OpensClear spot (path :: Path.above path)) :
    (fs.without spot).makeDirectories path = (fs.makeDirectories path).map (without · spot) := by
  unfold makeDirectories
  split
  · rfl
  · exact ensureOutwards_of_opensClear hopens

/-- What is left of making directories is the same, too. -/
theorem afterOutwards_of_opensClear
    {paths : List String}
    (hopens : fs.OpensClear spot paths) :
    (fs.without spot).afterOutwards paths = (fs.afterOutwards paths).without spot := by
  induction paths with
  | nil =>
      rfl
  | cons path above ih =>
      obtain ⟨havoids, hmissing⟩ := hopens
      unfold afterOutwards
      rw [ensureDirectory_of_avoids havoids]
      cases hensure : fs.ensureDirectory path with
      | ok made =>
          rfl
      | error fault =>
          cases fault with
          | missing =>
              obtain ⟨habove, hmade⟩ := hmissing hensure
              simp only [Except.map, ih habove, ensureOutwards_of_opensClear habove]
              cases houtwards : fs.ensureOutwards above with
              | error fault =>
                  rfl
              | ok made =>
                  simp only [ensureDirectory_of_avoids (hmade made houtwards)]
                  cases made.ensureDirectory path <;> rfl
          | _ =>
              rfl

theorem afterDirectories_of_opensClear
    (hopens : fs.OpensClear spot (path :: Path.above path)) :
    (fs.without spot).afterDirectories path = (fs.afterDirectories path).without spot := by
  unfold afterDirectories
  split
  · rfl
  · exact afterOutwards_of_opensClear hopens

/-- An entry is removed alike with and without the names. -/
theorem remove_of_avoids
    (havoids : fs.Avoids spot path)
    (name : String) :
    (fs.without spot).remove path name = (fs.remove path name).without spot := by
  unfold remove
  rw [realPath?_of_avoids havoids]
  cases hnames : fs.realPath? path with
  | none =>
      rfl
  | some names =>
      have hroot := Spot.changeAt_removeIn_comm (clear_of_realPath? havoids hnames) name fs.root
      exact congrArg (fun root => { fs with root }) hroot

end Changes

end FileSystem
end CodeAudit
