import CodeAudit.Proofs.Files.Change
import CodeAudit.Proofs.Files.Visits

/-!
# Trees that grow

A tree grows when entries are added and files are written: links and directories stay where they are,
and so do all files but those that are written.  Every walk that arrives in a tree arrives at the same
place in a tree that has grown from it, and a walk that misses only the last entry arrives once this
entry is there.

**Results.**
* `grows_changeAt_setIn`: a tree grows when an entry is added or a file is written.
* `faceAt_changeAt_setIn`: and nothing changes elsewhere.
* `walk_growsTo`, `follow_growsTo`: walks in a tree that has grown.
-/

namespace CodeAudit

namespace Entry

/-- The entry at the end of a list of names. -/
def at? : List String → Entry → Option Entry
  | [], entry => some entry
  | name :: rest, entry => (entry.child? name).bind (at? rest)

theorem at?_directory
    (name : String)
    (rest : List String)
    (entries : List (String × Entry)) :
    at? (name :: rest) (.directory entries) = (entries.lookup name).bind (at? rest) := rfl

theorem at?_append
    (names more : List String)
    (entry : Entry) :
    at? (names ++ more) entry = (at? names entry).bind (at? more) := by
  induction names generalizing entry with
  | nil =>
      rfl
  | cons name names ih =>
      rw [List.cons_append, at?, at?, Option.bind_assoc]
      exact congrArg _ (funext ih)

theorem at?_concat
    (names : List String)
    (name : String)
    (entry : Entry) :
    at? (names ++ [name]) entry = (at? names entry).bind (child? · name) := by
  rw [at?_append]
  refine congrArg _ (funext fun above => ?_)
  rw [at?]
  cases above.child? name <;> rfl

/-- What there is: a file, a link, or a directory, whatever its entries are. -/
def face : Entry → Entry
  | .directory _ => .directory []
  | entry => entry

/-- What there is at the end of a list of names. -/
def faceAt (names : List String) (root : Entry) : Option Entry := (at? names root).map face

theorem faceAt_directory
    (name : String)
    (rest : List String)
    (entries : List (String × Entry)) :
    faceAt (name :: rest) (.directory entries) = (entries.lookup name).bind (faceAt rest) := by
  rw [faceAt, at?_directory, Option.map_bind]
  rfl

/-- What becomes of an entry in a tree that grows: a file changes only if it is written. -/
inductive Kept (written : Prop) : Entry → Entry → Prop
  | file (content : ByteArray) (time : Nat) :
      Kept written (.file content time) (.file content time)
  | rewritten (content content' : ByteArray) (time time' : Nat) (hwritten : written) :
      Kept written (.file content time) (.file content' time')
  | link (target : String) :
      Kept written (.link target) (.link target)
  | directory (entries entries' : List (String × Entry)) :
      Kept written (.directory entries) (.directory entries')

/-- A tree has grown into another one, and only files at the places `written` were written. -/
def Grows
    (written : List String → Prop)
    (before after : Entry) : Prop :=
  ∀ names entry, at? names before = some entry →
    ∃ grown, at? names after = some grown ∧ Kept (written names) entry grown

namespace Kept

variable {written written' : Prop} {a b c : Entry}

theorem refl
    (written : Prop)
    (entry : Entry) :
    Kept written entry entry := by
  cases entry with
  | file content time =>
      exact .file content time
  | link target =>
      exact .link target
  | directory entries =>
      exact .directory entries entries

theorem mono
    (hkept : Kept written a b)
    (hwritten : written → written') :
    Kept written' a b := by
  cases hkept with
  | file content time =>
      exact .file content time
  | rewritten content content' time time' h =>
      exact .rewritten content content' time time' (hwritten h)
  | link target =>
      exact .link target
  | directory entries entries' =>
      exact .directory entries entries'

theorem trans
    (hab : Kept written a b)
    (hbc : Kept written b c) :
    Kept written a c := by
  cases hab with
  | file content time =>
      exact hbc
  | rewritten content content' time time' h =>
      cases hbc with
      | file | rewritten =>
          exact .rewritten _ _ _ _ h
  | link target =>
      exact hbc
  | directory entries entries' =>
      cases hbc with
      | directory =>
          exact .directory _ _

/-- Nothing becomes of an entry that goes on being what it is. -/
theorem of_face_eq
    (hface : b.face = a.face) :
    Kept written a b := by
  cases a with
  | file content time =>
      cases b with
      | file content' time' =>
          obtain ⟨rfl, rfl⟩ := Entry.file.inj hface
          exact .file content' time'
      | link target | directory entries =>
          cases hface
  | link target =>
      cases b with
      | link target' =>
          obtain rfl := Entry.link.inj hface
          exact .link target'
      | file content time | directory entries =>
          cases hface
  | directory entries =>
      cases b with
      | directory entries' =>
          exact .directory entries entries'
      | file content time | link target =>
          cases hface

end Kept

namespace Grows

variable {written written' : List String → Prop} {a b c : Entry}

theorem refl
    (written : List String → Prop)
    (entry : Entry) :
    Grows written entry entry :=
  fun _ found hfound => ⟨found, hfound, .refl _ found⟩

theorem mono
    (hgrows : Grows written a b)
    (hwritten : ∀ names, written names → written' names) :
    Grows written' a b := by
  intro names entry hentry
  obtain ⟨grown, hgrown, hkept⟩ := hgrows names entry hentry
  exact ⟨grown, hgrown, hkept.mono (hwritten names)⟩

theorem trans
    (hab : Grows written a b)
    (hbc : Grows written b c) :
    Grows written a c := by
  intro names entry hentry
  obtain ⟨middle, hmiddle, hkept⟩ := hab names entry hentry
  obtain ⟨grown, hgrown, hkept'⟩ := hbc names middle hmiddle
  exact ⟨grown, hgrown, hkept.trans hkept'⟩

end Grows

/-! ## Setting an entry -/

section Set

variable {name : String} {new : Entry}

theorem at?_changeAt_concat
    {names : List String}
    {root : Entry}
    {entries : List (String × Entry)}
    (hdirectory : at? names root = some (.directory entries)) :
    at? (names ++ [name]) (changeAt (setIn name new) names root) = some new := by
  induction names generalizing root with
  | nil =>
      obtain rfl := Option.some.inj hdirectory
      rw [List.nil_append, changeAt, at?_directory, lookup_setIn_self]
      rfl
  | cons first names ih =>
      cases root with
      | file content time =>
          cases hdirectory
      | link target =>
          cases hdirectory
      | directory others =>
          rw [at?_directory] at hdirectory
          cases hfirst : others.lookup first with
          | none =>
              rw [hfirst] at hdirectory
              cases hdirectory
          | some found =>
              rw [hfirst] at hdirectory
              rw [changeAt_of_lookup hfirst, List.cons_append, at?_directory, lookup_setIn_self]
              exact ih hdirectory

/-- Outside of what is set there is what there was, and nothing where there was nothing. -/
theorem faceAt_changeAt_of_outside
    (new : Entry)
    {names place : List String}
    (root : Entry)
    (houtside : ¬ names ++ [name] <+: place) :
    faceAt place (changeAt (setIn name new) names root) = faceAt place root := by
  induction names generalizing root place with
  | nil =>
      cases root with
      | file content time =>
          rw [changeAt_file]
      | link target =>
          rw [changeAt_link]
      | directory entries =>
          cases place with
          | nil =>
              rfl
          | cons next place =>
              have hne : next ≠ name := by
                rintro rfl
                exact houtside (List.cons_prefix_cons.mpr ⟨rfl, List.nil_prefix⟩)
              rw [changeAt, faceAt_directory, lookup_setIn_of_ne hne, faceAt_directory]
  | cons first names ih =>
      cases root with
      | file content time =>
          rw [changeAt_file]
      | link target =>
          rw [changeAt_link]
      | directory entries =>
          cases hfirst : entries.lookup first with
          | none =>
              rw [changeAt_of_lookup_none hfirst]
          | some found =>
              rw [changeAt_of_lookup hfirst]
              cases place with
              | nil =>
                  rfl
              | cons next place =>
                  rw [faceAt_directory, faceAt_directory]
                  by_cases heq : next = first
                  · subst heq
                    rw [lookup_setIn_self, hfirst]
                    refine ih found ?_
                    intro hprefix
                    exact houtside (List.cons_prefix_cons.mpr ⟨rfl, hprefix⟩)
                  · rw [lookup_setIn_of_ne heq]

/-- Outside of what is set, entries stay, and directories stay directories. -/
theorem at?_changeAt_of_outside
    (new : Entry)
    {names place : List String}
    {root entry : Entry}
    (houtside : ¬ names ++ [name] <+: place)
    (hentry : at? place root = some entry) :
    ∃ grown, at? place (changeAt (setIn name new) names root) = some grown ∧
      Kept False entry grown := by
  have hface := faceAt_changeAt_of_outside new root houtside
  rw [faceAt, faceAt, hentry, Option.map_some, Option.map_eq_some_iff] at hface
  obtain ⟨grown, hgrown, hsame⟩ := hface
  exact ⟨grown, hgrown, .of_face_eq hsame⟩

theorem at?_cons_of_childless
    {entry : Entry}
    (hchildless : ∀ name, entry.child? name = none)
    (name : String)
    (rest : List String) :
    at? (name :: rest) entry = none := by
  rw [at?, hchildless, Option.bind_none]

/-- Where an entry without entries takes the place of another one or of nothing, nothing else
changes. -/
theorem faceAt_changeAt_setIn
    {names place : List String}
    {root : Entry}
    {entries : List (String × Entry)}
    (hdirectory : at? names root = some (.directory entries))
    (hold : ∀ old, entries.lookup name = some old → ∀ other, old.child? other = none)
    (hnew : ∀ other, new.child? other = none)
    (hne : place ≠ names ++ [name]) :
    faceAt place (changeAt (setIn name new) names root) = faceAt place root := by
  by_cases hinside : names ++ [name] <+: place
  · obtain ⟨rest, rfl⟩ := hinside
    cases rest with
    | nil =>
        exact absurd (List.append_nil _) hne
    | cons next rest =>
        rw [faceAt, faceAt, at?_append, at?_changeAt_concat hdirectory, Option.bind_some,
          at?_cons_of_childless hnew, at?_append, at?_concat, hdirectory, Option.bind_some, child?,
          Entry.entries]
        cases hlookup : entries.lookup name with
        | none =>
            rfl
        | some old =>
            rw [Option.bind_some, at?_cons_of_childless (hold old hlookup)]
  · exact faceAt_changeAt_of_outside new root hinside

/-- A tree grows when an entry is added, or when a file takes the place of a file. -/
theorem grows_changeAt_setIn
    {names : List String}
    {root : Entry}
    {entries : List (String × Entry)}
    (hdirectory : at? names root = some (.directory entries))
    (hold : ∀ old, entries.lookup name = some old →
      ∃ content time content' time', old = .file content time ∧ new = .file content' time') :
    Grows (fun place => place = names ++ [name] ∧ (entries.lookup name).isSome) root
      (changeAt (setIn name new) names root) := by
  intro place entry hentry
  by_cases hinside : names ++ [name] <+: place
  · obtain ⟨rest, rfl⟩ := hinside
    rw [at?_append, at?_concat, hdirectory, Option.bind_some, child?, Entry.entries] at hentry
    cases hlookup : entries.lookup name with
    | none =>
        rw [hlookup] at hentry
        cases hentry
    | some old =>
        obtain ⟨content, time, content', time', rfl, rfl⟩ := hold old hlookup
        rw [hlookup, Option.bind_some] at hentry
        -- below a file there is nothing
        cases rest with
        | cons next rest =>
            cases hentry
        | nil =>
            obtain rfl := Option.some.inj hentry
            rw [List.append_nil]
            exact ⟨_, at?_changeAt_concat hdirectory, .rewritten _ _ _ _ ⟨rfl, rfl⟩⟩
  · obtain ⟨grown, hgrown, hkept⟩ := at?_changeAt_of_outside new hinside hentry
    exact ⟨grown, hgrown, hkept.mono False.elim⟩

end Set

end Entry

namespace FileSystem

open Entry

/-! ## Walks in a tree that has grown -/

/-- A trail whose entries are where its names lead from the root. -/
inductive Rooted (root : Entry) : Trail → Prop
  | nil : Rooted root []
  | cons
      {name : String}
      {entry : Entry}
      {above : Trail}
      (hchild : (top root above).child? name = some entry)
      (habove : Rooted root above) :
      Rooted root ((name, entry) :: above)

/-- Two trails with the same names, each in its own tree. -/
structure Alongside (before after : Entry) (trail trail' : Trail) : Prop where
  rooted : Rooted before trail
  rooted' : Rooted after trail'
  names_eq : trailNames trail' = trailNames trail

/-- How a walk ends in a tree that has grown, by how it ended before: it arrives where it arrived, and it
comes to the same links.  Where it missed the last entry, it arrives once there is an entry that is no
link. -/
def Walk.GrowsTo (before after : Entry) : Walk → Walk → Prop
  | .arrived trail, grown => ∃ trail', grown = .arrived trail' ∧ Alongside before after trail trail'
  | .absent trail name, grown =>
    Rooted before trail ∧
      (∃ entries, top before trail = .directory entries ∧ entries.lookup name = none) ∧
      ∀ entry, at? (trailNames trail ++ [name]) after = some entry →
        (∀ target, entry ≠ .link target) →
        ∃ trail', grown = .arrived trail' ∧ Rooted after trail' ∧
          trailNames trail' = trailNames trail ++ [name]
  | .failed _, _ => True
  | .linked trail target rest, grown =>
    ∃ trail', grown = .linked trail' target rest ∧ Alongside before after trail trail'

section Walks

variable {written : List String → Prop} {before after : Entry}

theorem Rooted.drop
    {root : Entry}
    {trail : Trail}
    (hrooted : Rooted root trail) :
    Rooted root (trail.drop 1) := by
  cases hrooted with
  | nil =>
      exact .nil
  | cons hchild habove =>
      exact habove

/-- The end of a trail is what its names lead to. -/
theorem Rooted.at?_trailNames
    {root : Entry}
    {trail : Trail}
    (hrooted : Rooted root trail) :
    at? (trailNames trail) root = some (top root trail) := by
  induction hrooted with
  | nil =>
      rfl
  | cons hchild habove ih =>
      rw [trailNames_cons, at?_concat, ih, Option.bind_some, hchild]
      rfl

theorem Alongside.nil : Alongside before after [] [] where
  rooted := .nil
  rooted' := .nil
  names_eq := rfl

theorem Alongside.drop
    {trail trail' : Trail}
    (halong : Alongside before after trail trail') :
    Alongside before after (trail.drop 1) (trail'.drop 1) where
  rooted := halong.rooted.drop
  rooted' := halong.rooted'.drop
  names_eq := by
    have hdrop : ∀ trail : Trail, trailNames (trail.drop 1) = (trailNames trail).dropLast := by
      intro trail
      simp [trailNames]
    rw [hdrop, hdrop, halong.names_eq]

/-- The ends of the trails, when the tree has grown. -/
theorem Alongside.kept
    {trail trail' : Trail}
    (halong : Alongside before after trail trail')
    (hgrows : Grows written before after) :
    Kept (written (trailNames trail)) (top before trail) (top after trail') := by
  obtain ⟨grown, hgrown, hkept⟩ := hgrows _ _ halong.rooted.at?_trailNames
  rw [← halong.names_eq, halong.rooted'.at?_trailNames] at hgrown
  obtain rfl := Option.some.inj hgrown
  exact hkept

/-- What is found under a name, when the tree has grown. -/
theorem Alongside.child?
    {trail trail' : Trail}
    (halong : Alongside before after trail trail')
    (hgrows : Grows written before after)
    {name : String}
    {entry : Entry}
    (hchild : (top before trail).child? name = some entry) :
    ∃ grown, (top after trail').child? name = some grown ∧
      Kept (written (trailNames trail ++ [name])) entry grown := by
  obtain ⟨grown, hgrown, hkept⟩ := hgrows (trailNames trail ++ [name]) entry (by
    rw [at?_concat, halong.rooted.at?_trailNames, Option.bind_some, hchild])
  rw [← halong.names_eq, at?_concat, halong.rooted'.at?_trailNames, Option.bind_some] at hgrown
  exact ⟨grown, hgrown, hkept⟩

theorem Alongside.cons
    {trail trail' : Trail}
    (halong : Alongside before after trail trail')
    {name : String}
    {entry grown : Entry}
    (hchild : (top before trail).child? name = some entry)
    (hgrown : (top after trail').child? name = some grown) :
    Alongside before after ((name, entry) :: trail) ((name, grown) :: trail') where
  rooted := .cons hchild halong.rooted
  rooted' := .cons hgrown halong.rooted'
  names_eq := by rw [trailNames_cons, trailNames_cons, halong.names_eq]

/-- In a directory a step that is a name looks for an entry. -/
theorem walk_cons_of_name
    {root : Entry}
    {trail : Trail}
    {entries : List (String × Entry)}
    {step : String}
    (htop : top root trail = .directory entries)
    (hhere : step ≠ ".")
    (hup : step ≠ "..")
    (hshort : ¬ nameLimit < step.utf8ByteSize)
    (rest : List String) :
    walk root trail (step :: rest) =
      proceed root trail step rest (.ofChild? (entries.lookup step)) := by
  rw [walk_cons, look, htop]
  simp only [if_neg hhere, if_neg hup, if_neg hshort]

/-- A walk that follows no link, in a tree that has grown. -/
theorem walk_growsTo
    (hgrows : Grows written before after)
    {trail trail' : Trail}
    (halong : Alongside before after trail trail')
    (steps : List String) :
    (walk before trail steps).GrowsTo before after (walk after trail' steps) := by
  induction steps generalizing trail trail' with
  | nil =>
      exact ⟨trail', rfl, halong⟩
  | cons step rest ih =>
      have hkept := halong.kept hgrows
      cases htop : top before trail with
      | file content time =>
          rw [walk_cons, look, htop]
          trivial
      | link target =>
          rw [walk_cons, look, htop]
          trivial
      | directory entries =>
          obtain ⟨entries', htop'⟩ : ∃ entries', top after trail' = .directory entries' := by
            rw [htop] at hkept
            generalize top after trail' = grown at hkept
            cases hkept with
            | directory entries entries' =>
                exact ⟨entries', rfl⟩
          by_cases hhere : step = "."
          · rw [walk_cons, walk_cons, look, look, htop, htop']
            simp only [if_pos hhere, proceed]
            exact ih halong
          by_cases hup : step = ".."
          · rw [walk_cons, walk_cons, look, look, htop, htop']
            simp only [if_neg hhere, if_pos hup, proceed]
            exact ih halong.drop
          by_cases hlong : nameLimit < step.utf8ByteSize
          · rw [walk_cons, look, htop]
            simp only [if_neg hhere, if_neg hup, if_pos hlong, proceed]
            trivial
          -- Now the step looks for an entry, in both trees.
          rw [walk_cons_of_name htop hhere hup hlong, walk_cons_of_name htop' hhere hup hlong]
          have hchild' : (top after trail').child? step = entries'.lookup step := by
            rw [htop', Entry.child?, Entry.entries]
          cases hlookup : entries.lookup step with
          | none =>
              rw [Look.ofChild?, proceed]
              split
              · next hlast =>
                obtain rfl := List.isEmpty_iff.mp hlast
                refine ⟨halong.rooted, ⟨entries, htop, hlookup⟩, ?_⟩
                intro entry hentry hplain
                rw [← halong.names_eq, at?_concat, halong.rooted'.at?_trailNames,
                  Option.bind_some] at hentry
                rw [← hchild', hentry]
                refine ⟨(step, entry) :: trail', ?_, .cons hentry halong.rooted', ?_⟩
                · cases entry with
                  | link target =>
                      exact absurd rfl (hplain target)
                  | file content time =>
                      rfl
                  | directory inner =>
                      rfl
                · rw [trailNames_cons, halong.names_eq]
              · trivial
          | some child =>
              have hchild : (top before trail).child? step = some child := by
                rw [htop, Entry.child?, Entry.entries, hlookup]
              obtain ⟨grown, hgrown, hkeptchild⟩ := halong.child? hgrows hchild
              rw [← hchild', hgrown]
              have hnext := halong.cons hchild hgrown
              cases hkeptchild with
              | link target =>
                  exact ⟨trail', rfl, halong⟩
              | file content time =>
                  exact ih hnext
              | rewritten content content' time time' hwritten =>
                  exact ih hnext
              | directory inner inner' =>
                  exact ih hnext

/-- A walk along links, in a tree that has grown. -/
theorem follow_growsTo
    (hgrows : Grows written before after)
    (links : Nat)
    {trail trail' : Trail}
    (halong : Alongside before after trail trail')
    (steps : List String) :
    (follow before links trail steps).GrowsTo before after (follow after links trail' steps) := by
  induction links generalizing trail trail' steps with
  | zero =>
      trivial
  | succ links ih =>
      have hwalk := walk_growsTo hgrows halong steps
      rw [follow, follow]
      cases hbefore : walk before trail steps with
      | linked ended target rest =>
          rw [hbefore] at hwalk
          obtain ⟨ended', hafter, hended⟩ := hwalk
          rw [hafter]
          simp only
          split
          · exact ih .nil _
          · exact ih hended _
      | arrived ended =>
          rw [hbefore] at hwalk
          obtain ⟨ended', hafter, hended⟩ := hwalk
          rw [hafter]
          exact ⟨ended', rfl, hended⟩
      | absent ended name =>
          rw [hbefore] at hwalk
          obtain ⟨hrooted, hplace, harrives⟩ := hwalk
          refine ⟨hrooted, hplace, ?_⟩
          intro entry hentry hplain
          obtain ⟨ended', hafter, hended⟩ := harrives entry hentry hplain
          rw [hafter]
          exact ⟨ended', rfl, hended⟩
      | failed fault =>
          trivial

end Walks

end FileSystem

end CodeAudit
