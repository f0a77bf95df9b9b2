import CodeAudit.Files.Entry
import Mathlib.Data.List.Basic

/-!
# Changes of entries

The entries of a directory are put in and taken out by name, and a tree is changed in one of its
directories.  A `Spot` says which entries are taken out of which directory.  Taking them out before
or after another change comes to the same if this change is not made in one of them.

**Results.**
* `lookup_setIn_self`, `lookup_setIn_of_ne`, `lookup_filter`: what is under a name after a change.
* `changeAt_comm`: changes in two directories.
* `Spot.lookup_alterAt`: what is under a name after entries were taken out.
-/

namespace CodeAudit

namespace Entry

/-- Takes names out of a list of entries. -/
def trim (gone : String → Bool) (entries : List (String × Entry)) : List (String × Entry) :=
  entries.filter fun entry => !gone entry.1

section Lists

variable {name other : String} {entry : Entry} {entries : List (String × Entry)}

@[simp] theorem lookup_setIn_self :
    (setIn name entry entries).lookup name = some entry := by
  induction entries with
  | nil =>
      simp [setIn]
  | cons first rest ih =>
      obtain ⟨key, kept⟩ := first
      by_cases hkey : key = name
      · simp [setIn, hkey]
      · have hother : (name == key) = false := beq_eq_false_iff_ne.mpr (Ne.symm hkey)
        simp [setIn, hkey, List.lookup_cons, hother, ih]

theorem lookup_setIn_of_ne
    (hne : other ≠ name) :
    (setIn name entry entries).lookup other = entries.lookup other := by
  have hname : (other == name) = false := beq_eq_false_iff_ne.mpr hne
  induction entries with
  | nil =>
      simp [setIn, List.lookup_cons, hname]
  | cons first rest ih =>
      obtain ⟨key, kept⟩ := first
      by_cases hkey : key = name
      · simp [setIn, hkey, List.lookup_cons, hname]
      · simp [setIn, hkey, List.lookup_cons, ih]

@[simp] theorem setIn_setIn_self
    (before : Entry) :
    setIn name entry (setIn name before entries) = setIn name entry entries := by
  induction entries with
  | nil =>
      simp [setIn]
  | cons first rest ih =>
      obtain ⟨key, kept⟩ := first
      by_cases hkey : key = name
      · simp [setIn, hkey]
      · simp [setIn, hkey, ih]

/-- Two names are set in any order if one of them is there already. -/
theorem setIn_comm
    (hne : name ≠ other)
    {found : Entry}
    (hfound : entries.lookup other = some found)
    (entry' : Entry) :
    setIn name entry (setIn other entry' entries) =
      setIn other entry' (setIn name entry entries) := by
  induction entries with
  | nil =>
      cases hfound
  | cons first rest ih =>
      obtain ⟨key, kept⟩ := first
      by_cases hother : key = other
      · have hname : other ≠ name := Ne.symm hne
        simp [setIn, hother, hname]
      · by_cases hname : key = name
        · simp [setIn, hname, hne]
        · have hkey : (other == key) = false := beq_eq_false_iff_ne.mpr (Ne.symm hother)
          rw [List.lookup_cons, hkey] at hfound
          simp [setIn, hother, hname, ih hfound]

theorem lookup_trim
    (gone : String → Bool) :
    (trim gone entries).lookup name = if gone name then none else entries.lookup name := by
  induction entries with
  | nil =>
      simp [trim]
  | cons first rest ih =>
      obtain ⟨key, kept⟩ := first
      rw [trim] at ih ⊢
      by_cases hkey : name = key
      · subst hkey
        cases hgone : gone name with
        | true =>
            simpa [hgone] using ih
        | false =>
            simp [hgone]
      · have hother : (name == key) = false := beq_eq_false_iff_ne.mpr hkey
        cases hgone : gone key with
        | true =>
            simpa [hgone, List.lookup_cons, hother] using ih
        | false =>
            simpa [hgone, List.lookup_cons, hother] using ih

theorem trim_setIn
    (gone : String → Bool)
    (hkept : gone name = false) :
    trim gone (setIn name entry entries) = setIn name entry (trim gone entries) := by
  induction entries with
  | nil =>
      simp [trim, setIn, hkept]
  | cons first rest ih =>
      obtain ⟨key, kept⟩ := first
      rw [trim] at ih ⊢
      by_cases hkey : key = name
      · simp [trim, setIn, hkey, hkept]
      · cases hgone : gone key with
        | true =>
            simp [trim, setIn, hkey, hgone, ih]
        | false =>
            simp [trim, setIn, hkey, hgone, ih]

theorem trim_setIn_of_gone
    (gone : String → Bool)
    (hgone : gone name = true) :
    trim gone (setIn name entry entries) = trim gone entries := by
  induction entries with
  | nil =>
      simp [trim, setIn, hgone]
  | cons first rest ih =>
      obtain ⟨key, kept⟩ := first
      rw [trim] at ih ⊢
      by_cases hkey : key = name
      · simp [trim, setIn, hkey, hgone]
      · simp [trim, setIn, hkey, List.filter_cons, ih]

end Lists

section Trees

variable {change : List (String × Entry) → List (String × Entry)}

@[simp] theorem changeAt_file
    (names : List String)
    (content : ByteArray)
    (written : Nat) :
    changeAt change names (file content written) = file content written := by
  cases names <;> rfl

@[simp] theorem changeAt_link
    (names : List String)
    (target : String) :
    changeAt change names (link target) = link target := by
  cases names <;> rfl

@[simp] theorem isDirectory_changeAt
    (names : List String)
    (entry : Entry) :
    (changeAt change names entry).isDirectory = entry.isDirectory := by
  cases entry with
  | file content written =>
      rw [changeAt_file]
  | link target =>
      rw [changeAt_link]
  | directory entries =>
      cases names with
      | nil =>
          rfl
      | cons name rest =>
          simp only [changeAt]
          split <;> rfl

theorem changeAt_of_lookup
    {name : String}
    {entries : List (String × Entry)}
    {entry : Entry}
    (hlookup : entries.lookup name = some entry)
    (rest : List String) :
    changeAt change (name :: rest) (directory entries) =
      directory (setIn name (changeAt change rest entry) entries) := by
  simp only [changeAt, hlookup]

theorem changeAt_of_lookup_none
    {name : String}
    {entries : List (String × Entry)}
    (hlookup : entries.lookup name = none)
    (rest : List String) :
    changeAt change (name :: rest) (directory entries) = directory entries := by
  simp only [changeAt, hlookup]

end Trees

end Entry

/-- Names that are taken out of a directory. -/
structure Spot where
  names : List String
  gone : String → Bool

namespace Spot

open Entry

/-- A place is neither at nor below what goes. -/
def Clear (spot : Spot) (place : List String) : Prop :=
  ∀ name, spot.gone name = true → ¬ spot.names ++ [name] <+: place

/-- Takes the names out of a tree. -/
def alter (spot : Spot) (root : Entry) : Entry := root.changeAt (trim spot.gone) spot.names

/-- What becomes of an entry at a place when the names are taken out. -/
def alterAt (spot : Spot) (place : List String) (entry : Entry) : Entry :=
  match place.isPrefixOf? spot.names with
  | some rest => entry.changeAt (trim spot.gone) rest
  | none => entry

variable {spot : Spot}

theorem isPrefixOf?_concat
    (place names : List String)
    (name : String) :
    (place ++ [name]).isPrefixOf? names = (place.isPrefixOf? names).bind [name].isPrefixOf? := by
  induction place generalizing names with
  | nil =>
      simp [List.isPrefixOf?]
  | cons first rest ih =>
      cases names with
      | nil =>
          simp [List.isPrefixOf?]
      | cons next names =>
          by_cases heq : first = next
          · simp [List.isPrefixOf?, heq, ih]
          · simp [List.isPrefixOf?, heq]

@[simp] theorem alterAt_file
    (place : List String)
    (content : ByteArray)
    (written : Nat) :
    spot.alterAt place (.file content written) = .file content written := by
  unfold alterAt
  split <;> simp

@[simp] theorem alterAt_link
    (place : List String)
    (target : String) :
    spot.alterAt place (.link target) = .link target := by
  unfold alterAt
  split <;> simp

@[simp] theorem isDirectory_alterAt
    (place : List String)
    (entry : Entry) :
    (spot.alterAt place entry).isDirectory = entry.isDirectory := by
  unfold alterAt
  split
  · exact isDirectory_changeAt _ _
  · rfl

/-- Under a name there is what was there before, unless it is taken out. -/
theorem lookup_alterAt
    (place : List String)
    (entries : List (String × Entry))
    (name : String) :
    ∃ altered, spot.alterAt place (.directory entries) = .directory altered ∧
      altered.lookup name =
        if place = spot.names ∧ spot.gone name = true then none
        else (entries.lookup name).map (spot.alterAt (place ++ [name])) := by
  unfold alterAt
  rw [isPrefixOf?_concat]
  cases hplace : place.isPrefixOf? spot.names with
  | none =>
      have hne : place ≠ spot.names := by
        rintro rfl
        have hself := List.isPrefixOf?_eq_some_iff_append_eq.mpr (List.append_nil spot.names)
        rw [hplace] at hself
        cases hself
      refine ⟨entries, rfl, ?_⟩
      simp [hne]
  | some rest =>
      have hnames := (List.isPrefixOf?_eq_some_iff_append_eq.mp hplace).symm
      cases rest with
      | nil =>
          refine ⟨trim spot.gone entries, rfl, ?_⟩
          rw [List.append_nil] at hnames
          simp [hnames, List.isPrefixOf?, lookup_trim]
      | cons next rest =>
          have hne : place ≠ spot.names := by
            rw [hnames]
            simp
          cases hnext : entries.lookup next with
          | none =>
              refine ⟨entries, changeAt_of_lookup_none hnext rest, ?_⟩
              by_cases hname : name = next
              · simp [hne, hname, hnext]
              · simp [hne, hname, List.isPrefixOf?]
          | some found =>
              refine ⟨_, changeAt_of_lookup hnext rest, ?_⟩
              by_cases hname : name = next
              · simp [hne, hname, hnext, List.isPrefixOf?]
              · simp [hne, hname, lookup_setIn_of_ne hname, List.isPrefixOf?]

/-- Only a directory is altered, and it remains one. -/
theorem alterAt_cases
    (place : List String)
    (entry : Entry) :
    spot.alterAt place entry = entry ∨
      ∃ entries altered, entry = .directory entries ∧
        spot.alterAt place entry = .directory altered := by
  cases entry with
  | file content written =>
      exact .inl (alterAt_file place content written)
  | link target =>
      exact .inl (alterAt_link place target)
  | directory entries =>
      obtain ⟨altered, haltered, -⟩ := spot.lookup_alterAt place entries ""
      exact .inr ⟨entries, altered, rfl, haltered⟩

section Order

variable {change : List (String × Entry) → List (String × Entry)}

theorem clear_nil
    (spot : Spot) :
    spot.Clear [] := by
  intro name _ hbelow
  simp at hbelow

theorem clear_of_outside
    {place : List String}
    (houtside : ¬ spot.names <+: place) :
    spot.Clear place :=
  fun name _ hbelow => houtside (List.IsPrefix.trans (List.prefix_append _ [name]) hbelow)

theorem Clear.mono
    {place above : List String}
    (hclear : spot.Clear place)
    (habove : above <+: place) :
    spot.Clear above :=
  fun name hgone hbelow => hclear name hgone (List.IsPrefix.trans hbelow habove)

theorem Clear.tail
    {name : String}
    {names place : List String}
    {gone : String → Bool}
    (hclear : Clear ⟨name :: names, gone⟩ (name :: place)) :
    Clear ⟨names, gone⟩ place := by
  intro other hgone hbelow
  exact hclear other hgone (List.cons_prefix_cons.mpr ⟨rfl, hbelow⟩)

theorem Clear.gone_head
    {name : String}
    {place : List String}
    {gone : String → Bool}
    (hclear : Clear ⟨[], gone⟩ (name :: place)) :
    gone name = false := by
  rw [Bool.eq_false_iff]
  intro hgone
  exact hclear name hgone (List.cons_prefix_cons.mpr ⟨rfl, List.nil_prefix⟩)

/--
A change in a directory can be made before or after names are taken out, if this directory is not
in what goes, and if that is so for the change where it is made.
-/
theorem changeAt_comm
    {names place : List String}
    {gone : String → Bool}
    (hclear : Clear ⟨names, gone⟩ place)
    (hhere : ∀ rest, names = place ++ rest → ∀ entry,
      changeAt change [] (changeAt (trim gone) rest entry) =
        changeAt (trim gone) rest (changeAt change [] entry))
    (entry : Entry) :
    changeAt change place (changeAt (trim gone) names entry) =
      changeAt (trim gone) names (changeAt change place entry) := by
  -- Both ways go down from the root until one of them ends or they part.
  induction place generalizing names entry with
  | nil =>
      exact hhere names rfl entry
  | cons name place ih =>
      cases entry with
      | file content written =>
          simp only [changeAt_file]
      | link target =>
          simp only [changeAt_link]
      | directory entries =>
          cases names with
          | nil =>
              -- The names go here, and the change is below one that stays.
              have hkept := hclear.gone_head
              have hlookup : (trim gone entries).lookup name = entries.lookup name := by
                simp [lookup_trim, hkept]
              cases hfound : entries.lookup name with
              | none =>
                  rw [changeAt_of_lookup_none hfound]
                  exact changeAt_of_lookup_none (hlookup.trans hfound) place
              | some found =>
                  rw [changeAt_of_lookup hfound]
                  refine (changeAt_of_lookup (hlookup.trans hfound) place).trans ?_
                  exact congrArg directory (trim_setIn _ hkept).symm
          | cons next names =>
              by_cases heq : name = next
              · subst heq
                cases hfound : entries.lookup name with
                | none =>
                    simp only [changeAt_of_lookup_none hfound]
                | some found =>
                    have hrest : ∀ rest, names = place ++ rest → _ := fun rest hnames =>
                      hhere rest (by rw [hnames, List.cons_append])
                    have hchild := ih hclear.tail hrest found
                    simp only [changeAt_of_lookup hfound, changeAt_of_lookup lookup_setIn_self,
                      setIn_setIn_self, hchild]
              · -- Two different entries change; if both are there, they are set in any order.
                have hname : ∀ entry, (setIn next entry entries).lookup name = entries.lookup name :=
                  fun entry => lookup_setIn_of_ne heq
                have hnext : ∀ entry, (setIn name entry entries).lookup next = entries.lookup next :=
                  fun entry => lookup_setIn_of_ne (Ne.symm heq)
                cases hfound : entries.lookup name with
                | none =>
                    rw [changeAt_of_lookup_none hfound]
                    cases hother : entries.lookup next with
                    | none =>
                        rw [changeAt_of_lookup_none hother, changeAt_of_lookup_none hfound]
                    | some other =>
                        rw [changeAt_of_lookup hother]
                        exact changeAt_of_lookup_none ((hname _).trans hfound) place
                | some found =>
                    rw [changeAt_of_lookup hfound]
                    cases hother : entries.lookup next with
                    | none =>
                        rw [changeAt_of_lookup_none hother, changeAt_of_lookup hfound]
                        exact (changeAt_of_lookup_none ((hnext _).trans hother) names).symm
                    | some other =>
                        rw [changeAt_of_lookup hother, changeAt_of_lookup ((hname _).trans hfound),
                          changeAt_of_lookup ((hnext _).trans hother), setIn_comm heq hother]

/-- A change in which a name is set, where this name does not go. -/
theorem changeAt_setIn_comm
    {place : List String}
    {name : String}
    {new : Entry}
    (hclear : spot.Clear (place ++ [name]))
    (hnew : ∀ rest, changeAt (trim spot.gone) rest new = new)
    (entry : Entry) :
    changeAt (setIn name new) place (spot.alter entry) =
      spot.alter (changeAt (setIn name new) place entry) := by
  apply changeAt_comm (hclear.mono (List.prefix_append place [name]))
  intro rest hnames entry
  cases entry with
  | file content written =>
      simp only [changeAt_file]
  | link target =>
      simp only [changeAt_link]
  | directory entries =>
      cases rest with
      | nil =>
          have hkept : spot.gone name = false := by
            rw [Bool.eq_false_iff]
            intro hgone
            rw [List.append_nil] at hnames
            exact hclear name hgone (hnames ▸ List.prefix_rfl)
          exact congrArg directory (trim_setIn _ hkept).symm
      | cons next rest =>
          by_cases heq : next = name
          · -- What is set takes the place of the directory in which the names are.
            subst heq
            change _ = changeAt (trim spot.gone) (next :: rest) (directory (setIn next new entries))
            rw [changeAt_of_lookup lookup_setIn_self, hnew, setIn_setIn_self]
            cases hfound : entries.lookup next with
            | none =>
                rw [changeAt_of_lookup_none hfound]
                rfl
            | some found =>
                rw [changeAt_of_lookup hfound]
                exact congrArg directory (setIn_setIn_self _)
          · change _ = changeAt (trim spot.gone) (next :: rest) (directory (setIn name new entries))
            have hnext : (setIn name new entries).lookup next = entries.lookup next :=
              lookup_setIn_of_ne heq
            cases hfound : entries.lookup next with
            | none =>
                rw [changeAt_of_lookup_none hfound, changeAt_of_lookup_none (hnext.trans hfound)]
                rfl
            | some found =>
                rw [changeAt_of_lookup hfound, changeAt_of_lookup (hnext.trans hfound)]
                exact congrArg directory (setIn_comm (Ne.symm heq) hfound _)

/-- Names are taken out of two directories in any order. -/
theorem changeAt_removeIn_comm
    {place : List String}
    (hclear : spot.Clear place)
    (name : String)
    (entry : Entry) :
    changeAt (removeIn name) place (spot.alter entry) =
      spot.alter (changeAt (removeIn name) place entry) := by
  apply changeAt_comm hclear
  intro rest hnames entry
  cases entry with
  | file content written =>
      simp only [changeAt_file]
  | link target =>
      simp only [changeAt_link]
  | directory entries =>
      cases rest with
      | nil =>
          exact congrArg directory (List.filter_comm _ _ entries)
      | cons next rest =>
          change _ = changeAt (trim spot.gone) (next :: rest) (directory (trim (· == name) entries))
          cases hfound : entries.lookup next with
          | none =>
              have hnext : (trim (· == name) entries).lookup next = none := by
                simp [lookup_trim, hfound]
              rw [changeAt_of_lookup_none hfound, changeAt_of_lookup_none hnext]
              rfl
          | some found =>
              rw [changeAt_of_lookup hfound]
              by_cases heq : next = name
              · have hnext : (trim (· == name) entries).lookup next = none := by
                  simp [lookup_trim, heq]
                rw [changeAt_of_lookup_none hnext]
                exact congrArg directory (trim_setIn_of_gone (· == name) (beq_iff_eq.mpr heq))
              · have hnext : (trim (· == name) entries).lookup next = some found := by
                  simp [lookup_trim, heq, hfound]
                rw [changeAt_of_lookup hnext]
                have hkept : (next == name) = false := beq_eq_false_iff_ne.mpr heq
                exact congrArg directory (trim_setIn (· == name) hkept)

end Order

end Spot

end CodeAudit
