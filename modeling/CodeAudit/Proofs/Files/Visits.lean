import CodeAudit.Files.System
import Mathlib.Data.List.Basic

/-!
# What a walk looks at

A walk takes one step after another, and at most of them it looks at a place: a list of names from
the root.  `visits` lists the places at which the walk to a path looks, links included.  A walk that
goes on from where another one has arrived looks at the places of both.

**Results.**
* `walk_cons`: a walk begins with what it finds at its first step.
* `walk_append`, `walkVisits_append`: a walk that goes on.
* `follow_append`, `exists_arrived_of_append`: the same along links, and back.
* `mem_followVisits_of_arrived`: the place of the step that follows.
-/

namespace CodeAudit
namespace FileSystem

/-! ## The steps of a walk -/

/-- What a walk finds when it takes a step. -/
inductive Look where
  | barred
  | moved (trail : Trail)
  | tooLong
  | nothing
  | link (target : String)
  | entry (entry : Entry)

namespace Look

/-- What a walk finds under a name. -/
def ofChild? : Option Entry → Look
  | none => .nothing
  | some (.link target) => .link target
  | some child => .entry child

/-- The place at which a walk has looked, if it had to. -/
def visits (place : List String) : Look → List (List String)
  | barred | moved _ => []
  | tooLong | nothing | link _ | entry _ => [place]

theorem visits_ofChild?
    (place : List String)
    (child : Option Entry) :
    (ofChild? child).visits place = [place] := by
  cases child with
  | none =>
      rfl
  | some child =>
      cases child <;> rfl

end Look

/-- The entry at the end of a trail. -/
def top (root : Entry) (trail : Trail) : Entry := (trail.head?.map Prod.snd).getD root

/-- Takes a step from the end of a trail. -/
def look (root : Entry) (trail : Trail) (step : String) : Look :=
  match top root trail with
  | .directory entries =>
    if step = "." then .moved trail
    else if step = ".." then .moved (trail.drop 1)
    else if nameLimit < step.utf8ByteSize then .tooLong
    else .ofChild? (entries.lookup step)
  | _ => .barred

/-- In a directory a walk looks at the place of a name. -/
theorem mem_visits_look
    {root : Entry}
    {trail : Trail}
    {step : String}
    (hdirectory : (top root trail).isDirectory = true)
    (hhere : step ≠ ".")
    (hup : step ≠ "..") :
    trailNames trail ++ [step] ∈ (look root trail step).visits (trailNames trail ++ [step]) := by
  cases htop : top root trail with
  | file content written =>
      rw [htop] at hdirectory
      cases hdirectory
  | link target =>
      rw [htop] at hdirectory
      cases hdirectory
  | directory entries =>
      simp only [look, htop, if_neg hhere, if_neg hup]
      split
      · exact List.mem_singleton_self _
      · rw [Look.visits_ofChild?]
        exact List.mem_singleton_self _

/-- The walk along a step and others, by what is found at the step. -/
def proceed (root : Entry) (trail : Trail) (step : String) (rest : List String) : Look → Walk
  | .barred => .failed .notDirectory
  | .moved trail => walk root trail rest
  | .tooLong => .failed .tooLong
  | .nothing => if rest.isEmpty then .absent trail step else .failed .missing
  | .link target => .linked trail target rest
  | .entry entry => walk root ((step, entry) :: trail) rest

theorem walk_cons
    (root : Entry)
    (trail : Trail)
    (step : String)
    (rest : List String) :
    walk root trail (step :: rest) = proceed root trail step rest (look root trail step) := by
  cases htop : (trail.head?.map Prod.snd).getD root with
  | file content written =>
      simp only [walk, look, top, htop, proceed]
  | link target =>
      simp only [walk, look, top, htop, proceed]
  | directory entries =>
      simp only [walk, look, top, htop]
      by_cases hhere : step = "."
      · simp only [if_pos hhere, proceed]
      · by_cases hup : step = ".."
        · simp only [if_neg hhere, if_pos hup, proceed]
        · simp only [if_neg hhere, if_neg hup]
          split
          · rfl
          · cases entries.lookup step with
            | none =>
                rfl
            | some child =>
                cases child <;> rfl

/-- The places at which a walk that follows no link looks. -/
def walkVisits (root : Entry) (trail : Trail) : List String → List (List String)
  | [] => []
  | step :: rest =>
    let found := look root trail step
    found.visits (trailNames trail ++ [step]) ++
      match found with
      | .moved trail => walkVisits root trail rest
      | .entry entry => walkVisits root ((step, entry) :: trail) rest
      | .barred | .tooLong | .nothing | .link _ => []

/-- The places at which a walk looks that follows at most `links` links. -/
def followVisits (root : Entry) : (links : Nat) → Trail → List String → List (List String)
  | 0, _, _ => []
  | links + 1, trail, steps =>
    walkVisits root trail steps ++
      match walk root trail steps with
      | .linked trail target rest =>
        followVisits root links (if Path.isAbsolute target then [] else trail)
          (Path.steps target ++ rest)
      | .arrived _ | .absent _ _ | .failed _ => []

/-- The places at which a walk to a path looks. -/
def visits (fs : FileSystem) (path : String) : List (List String) :=
  followVisits fs.root 41 [] (fs.start path ++ Path.steps path)

/-! ## The names of a trail -/

theorem trailNames_cons
    (name : String)
    (entry : Entry)
    (above : Trail) :
    trailNames ((name, entry) :: above) = trailNames above ++ [name] := by
  simp [trailNames]

theorem prefix_trailNames_drop
    (trail : Trail) :
    trailNames (trail.drop 1) <+: trailNames trail := by
  cases trail with
  | nil =>
      exact List.prefix_rfl
  | cons first above =>
      obtain ⟨name, entry⟩ := first
      rw [trailNames_cons]
      exact List.prefix_append _ _

theorem prefix_of_moved
    {root : Entry}
    {trail moved : Trail}
    {step : String}
    (hlook : look root trail step = .moved moved) :
    trailNames moved <+: trailNames trail := by
  unfold look at hlook
  split at hlook
  · split at hlook
    · obtain rfl := Look.moved.inj hlook
      exact List.prefix_rfl
    · split at hlook
      · obtain rfl := Look.moved.inj hlook
        exact prefix_trailNames_drop trail
      · split at hlook
        · cases hlook
        · unfold Look.ofChild? at hlook
          split at hlook <;> cases hlook
  · cases hlook

/-! ## Walks that go on -/

section More

variable {root : Entry}

/-- A walk goes on from where it has arrived. -/
theorem walk_append
    {trail ended : Trail}
    {steps : List String}
    (harrived : walk root trail steps = .arrived ended)
    (more : List String) :
    walk root trail (steps ++ more) = walk root ended more := by
  induction steps generalizing trail with
  | nil =>
      obtain rfl := Walk.arrived.inj harrived
      rfl
  | cons step rest ih =>
      rw [walk_cons] at harrived
      rw [List.cons_append, walk_cons]
      cases hlook : look root trail step with
      | moved trail =>
          rw [hlook] at harrived
          exact ih harrived
      | entry entry =>
          rw [hlook] at harrived
          exact ih harrived
      | nothing =>
          rw [hlook, proceed] at harrived
          split at harrived <;> cases harrived
      | barred | tooLong | link target =>
          rw [hlook] at harrived
          cases harrived

theorem walk_append_of_linked
    {trail ended : Trail}
    {steps rest : List String}
    {target : String}
    (hlinked : walk root trail steps = .linked ended target rest)
    (more : List String) :
    walk root trail (steps ++ more) = .linked ended target (rest ++ more) := by
  induction steps generalizing trail with
  | nil =>
      cases hlinked
  | cons step later ih =>
      rw [walk_cons] at hlinked
      rw [List.cons_append, walk_cons]
      cases hlook : look root trail step with
      | moved trail =>
          rw [hlook] at hlinked
          exact ih hlinked
      | entry entry =>
          rw [hlook] at hlinked
          exact ih hlinked
      | link found =>
          rw [hlook] at hlinked
          obtain ⟨rfl, rfl, rfl⟩ := Walk.linked.inj hlinked
          rfl
      | nothing =>
          rw [hlook, proceed] at hlinked
          split at hlinked <;> cases hlinked
      | barred | tooLong =>
          rw [hlook] at hlinked
          cases hlinked

/-- A walk that does not arrive, and comes to no link either, fails if it is to go on. -/
theorem walk_append_of_lost
    {trail : Trail}
    {steps : List String}
    (hlost : ∀ ended, walk root trail steps ≠ .arrived ended)
    (hplain : ∀ ended target rest, walk root trail steps ≠ .linked ended target rest)
    (step : String)
    (more : List String) :
    ∃ fault, walk root trail (steps ++ step :: more) = .failed fault := by
  induction steps generalizing trail with
  | nil =>
      exact absurd rfl (hlost trail)
  | cons first rest ih =>
      rw [walk_cons] at hlost hplain
      rw [List.cons_append, walk_cons]
      cases hlook : look root trail first with
      | moved trail =>
          rw [hlook] at hlost hplain
          exact ih hlost hplain
      | entry entry =>
          rw [hlook] at hlost hplain
          exact ih hlost hplain
      | link target =>
          rw [hlook] at hplain
          exact absurd rfl (hplain trail target rest)
      | nothing =>
          rw [proceed, if_neg (by simp)]
          exact ⟨_, rfl⟩
      | barred | tooLong =>
          exact ⟨_, rfl⟩

/-- A walk along links goes on from where it has arrived. -/
theorem follow_append
    {links : Nat}
    {trail ended : Trail}
    {steps : List String}
    (harrived : follow root links trail steps = .arrived ended)
    {more : List String}
    {found : Walk}
    (hfound : walk root ended more = found)
    (hplain : ∀ here target rest, found ≠ .linked here target rest) :
    follow root links trail (steps ++ more) = found := by
  induction links generalizing trail steps with
  | zero =>
      cases harrived
  | succ links ih =>
      rw [follow] at harrived ⊢
      cases hwalk : walk root trail steps with
      | arrived here =>
          rw [hwalk] at harrived
          obtain rfl := Walk.arrived.inj harrived
          rw [walk_append hwalk, hfound]
          cases found with
          | linked last target rest =>
              exact absurd rfl (hplain last target rest)
          | arrived last | absent last name | failed fault =>
              rfl
      | linked here target rest =>
          rw [hwalk] at harrived
          rw [walk_append_of_linked hwalk]
          simpa using ih harrived
      | absent here name | failed fault =>
          rw [hwalk] at harrived
          cases harrived

/-- A walk along links has arrived on the way where it does not fail in the end. -/
theorem exists_arrived_of_append
    {links : Nat}
    {trail : Trail}
    {steps more : List String}
    {step : String}
    (hends : ∀ fault, follow root links trail (steps ++ step :: more) ≠ .failed fault) :
    ∃ ended, follow root links trail steps = .arrived ended := by
  induction links generalizing trail steps with
  | zero =>
      exact absurd rfl (hends .tooManyLinks)
  | succ links ih =>
      rw [follow] at hends ⊢
      cases hwalk : walk root trail steps with
      | arrived here =>
          exact ⟨here, rfl⟩
      | linked here target rest =>
          rw [walk_append_of_linked hwalk] at hends
          exact ih (by simpa using hends)
      | absent here name | failed fault =>
          have hlost : ∃ fault, walk root trail (steps ++ step :: more) = .failed fault :=
            walk_append_of_lost (by simp [hwalk]) (by simp [hwalk]) step more
          obtain ⟨fault, hfailed⟩ := hlost
          rw [hfailed] at hends
          exact absurd rfl (hends fault)

theorem walkVisits_subset_append
    (trail : Trail)
    (steps more : List String) :
    walkVisits root trail steps ⊆ walkVisits root trail (steps ++ more) := by
  induction steps generalizing trail with
  | nil =>
      exact List.nil_subset _
  | cons step rest ih =>
      rw [List.cons_append, walkVisits, walkVisits]
      apply List.append_subset.mpr ⟨List.subset_append_left _ _, ?_⟩
      apply List.subset_append_of_subset_right
      cases look root trail step with
      | moved trail =>
          exact ih trail
      | entry entry =>
          exact ih _
      | barred | tooLong | nothing | link target =>
          exact List.nil_subset _

theorem walkVisits_append
    {trail ended : Trail}
    {steps : List String}
    (harrived : walk root trail steps = .arrived ended)
    (more : List String) :
    walkVisits root trail (steps ++ more) =
      walkVisits root trail steps ++ walkVisits root ended more := by
  induction steps generalizing trail with
  | nil =>
      obtain rfl := Walk.arrived.inj harrived
      rfl
  | cons step rest ih =>
      rw [walk_cons] at harrived
      rw [List.cons_append, walkVisits, walkVisits, List.append_assoc]
      congr 1
      cases hlook : look root trail step with
      | moved trail =>
          rw [hlook] at harrived
          exact ih harrived
      | entry entry =>
          rw [hlook] at harrived
          exact ih harrived
      | nothing =>
          rw [hlook, proceed] at harrived
          split at harrived <;> cases harrived
      | barred | tooLong | link target =>
          rw [hlook] at harrived
          cases harrived

theorem followVisits_subset_append
    (links : Nat)
    (trail : Trail)
    (steps more : List String) :
    followVisits root links trail steps ⊆ followVisits root links trail (steps ++ more) := by
  induction links generalizing trail steps with
  | zero =>
      exact List.nil_subset _
  | succ links ih =>
      rw [followVisits, followVisits]
      apply List.append_subset.mpr
      constructor
      · exact List.subset_append_of_subset_left _ (walkVisits_subset_append trail steps more)
      · apply List.subset_append_of_subset_right
        cases hwalk : walk root trail steps with
        | linked ended target rest =>
            rw [walk_append_of_linked hwalk]
            simpa using ih _ (Path.steps target ++ rest)
        | arrived ended | absent ended name | failed fault =>
            exact List.nil_subset _

/-- Where a walk has arrived, it looks at the place of the step that follows. -/
theorem mem_followVisits_of_arrived
    {links : Nat}
    {trail ended : Trail}
    {steps : List String}
    (harrived : follow root links trail steps = .arrived ended)
    {step : String}
    {place : List String}
    (hplace : place ∈ (look root ended step).visits (trailNames ended ++ [step]))
    (more : List String) :
    place ∈ followVisits root links trail (steps ++ step :: more) := by
  induction links generalizing trail steps with
  | zero =>
      cases harrived
  | succ links ih =>
      rw [follow] at harrived
      rw [followVisits, List.mem_append]
      cases hwalk : walk root trail steps with
      | arrived here =>
          rw [hwalk] at harrived
          obtain rfl := Walk.arrived.inj harrived
          left
          rw [walkVisits_append hwalk, walkVisits]
          exact List.mem_append_right _ (List.mem_append_left _ hplace)
      | linked here target rest =>
          rw [hwalk] at harrived
          right
          rw [walk_append_of_linked hwalk]
          simpa using ih harrived
      | absent here name | failed fault =>
          rw [hwalk] at harrived
          cases harrived

end More

end FileSystem

end CodeAudit
