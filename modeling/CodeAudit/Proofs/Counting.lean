import CodeAudit.Counting.Names
import CodeAudit.Counting.Total
import Mathlib.Algebra.GroupWithZero.Nat
import Mathlib.Data.List.Perm.Basic
import Mathlib.Data.String.Basic

/-!
# What counting by name gives

Values are gathered by key by changing the value of one key after another.  If the keys that can occur
are known in order, what is gathered can be told from them: a key that occurs has the value that the
changes for this key make of its first one, in their order, and the changes for other keys do not
matter.

A name is counted by going through the entries in order, so a count can only be trusted as long as
the entries stay ordered: a name that is put in front of a later one must not come again behind it.
The invariant of counting is therefore the order of the entries together with counts that are not
zero.

**Results.**
* `foldl_update`: what is gathered by key.
* `total_perm`: a total does not depend on the order.
* `mem_countNames_iff`: the entries are the names that occur, each with how often it occurs.
* `tallied_countNames`: they stand in the order of the names.
* `total_countNames`: their counts add up to the number of names.
* `countNames_perm`: the names may come in any order.
-/

namespace CodeAudit
namespace Counting

section Update

variable {κ α β : Type}

/-- The values of those keys in a list that have one. -/
def valuesOf
    (keys : List κ)
    (value? : κ → Option α) : List (κ × α) :=
  keys.filterMap fun key => (value? key).map fun value => (key, value)

theorem valuesOf_congr
    {keys : List κ}
    {value? value?' : κ → Option α}
    (hsame : ∀ key ∈ keys, value? key = value?' key) :
    valuesOf keys value? = valuesOf keys value?' := by
  apply List.filterMap_congr
  intro key hkey
  rw [hsame key hkey]

variable [DecidableEq κ] [LT κ] [DecidableLT κ]

/-- A key that comes before all others is put in front of them. -/
theorem update_of_before
    {key : κ}
    {start : α}
    {change : α → α}
    {entries : List (κ × α)}
    (hbefore : ∀ entry ∈ entries, key ≠ entry.1 ∧ key < entry.1) :
    update key start change entries = (key, change start) :: entries := by
  cases entries with
  | nil =>
      rfl
  | cons entry rest =>
      obtain ⟨hne, hlt⟩ := hbefore entry List.mem_cons_self
      rw [update, if_neg hne, if_pos hlt]

variable {keys : List κ} (hkeys : keys.Pairwise fun a b => a < b ∧ ¬ b < a)

include hkeys

/-- A change concerns its key and no other. -/
theorem update_valuesOf
    {key : κ}
    (hkey : key ∈ keys)
    (start : α)
    (change : α → α)
    (value? : κ → Option α) :
    update key start change (valuesOf keys value?) =
      valuesOf keys fun other =>
        if other = key then some (change ((value? key).getD start)) else value? other := by
  induction keys with
  | nil =>
      cases hkey
  | cons first rest ih =>
      obtain ⟨hfirst, hrest⟩ := List.pairwise_cons.mp hkeys
      by_cases hsame : first = key
      · -- The key is the first one, so that the others come after it.
        subst hsame
        have hlater : ∀ other ∈ rest, first ≠ other := by
          rintro _ hother rfl
          exact (hfirst first hother).2 (hfirst first hother).1
        have hothers : valuesOf rest (fun other =>
            if other = first then some (change ((value? first).getD start)) else value? other) =
              valuesOf rest value? :=
          valuesOf_congr fun other hother => if_neg (hlater other hother).symm
        have hbefore : ∀ entry ∈ valuesOf rest value?, first ≠ entry.1 ∧ first < entry.1 := by
          intro entry hentry
          obtain ⟨other, hother, hvalue⟩ := List.mem_filterMap.mp hentry
          obtain ⟨value, -, rfl⟩ := Option.map_eq_some_iff.mp hvalue
          exact ⟨hlater other hother, (hfirst other hother).1⟩
        unfold valuesOf at hothers hbefore ⊢
        cases hvalue : value? first with
        | none =>
            simp only [List.filterMap_cons, hvalue, Option.map_none, if_true, Option.getD_none,
              Option.map_some] at hothers ⊢
            rw [update_of_before hbefore, hothers]
        | some value =>
            simp only [List.filterMap_cons, hvalue, Option.map_some, if_true, Option.getD_some]
              at hothers ⊢
            rw [update, if_pos rfl, hothers]
      · have hmem : key ∈ rest := (List.mem_cons.mp hkey).resolve_left (Ne.symm hsame)
        have hnot : ¬ key < first := (hfirst key hmem).2
        have hind := ih hrest hmem
        unfold valuesOf at hind ⊢
        cases hvalue : value? first with
        | none =>
            simpa only [List.filterMap_cons, hvalue, Option.map_none, if_neg hsame] using hind
        | some value =>
            simp only [List.filterMap_cons, hvalue, Option.map_some, if_neg hsame]
            rw [update, if_neg (Ne.symm hsame), if_neg hnot, hind]

variable {key : β → κ} {items : List β} (hcover : ∀ item ∈ items, key item ∈ keys)

include hcover

/-- The changes for a key are made to the value that it has. -/
theorem foldl_update_valuesOf
    (start : α)
    (change : β → α → α)
    (value? : κ → Option α) :
    items.foldl (fun entries item => update (key item) start (change item) entries)
        (valuesOf keys value?) =
      valuesOf keys fun other =>
        let mine := items.filter fun item => decide (key item = other)
        if mine = [] then value? other
        else some (mine.foldl (fun value item => change item value) ((value? other).getD start)) := by
  induction items generalizing value? with
  | nil =>
      rfl
  | cons item rest ih =>
      rw [List.forall_mem_cons] at hcover
      rw [List.foldl_cons, update_valuesOf hkeys hcover.1, ih hcover.2]
      apply valuesOf_congr
      intro other _
      by_cases hsame : other = key item
      · subst hsame
        by_cases hnone : (rest.filter fun later => decide (key later = key item)) = []
        · simp [hnone]
        · simp [hnone]
      · have hmine : (item :: rest).filter (fun later => decide (key later = other)) =
            rest.filter fun later => decide (key later = other) :=
          List.filter_cons_of_neg (by simpa using Ne.symm hsame)
        simp only [hmine, if_neg hsame]

/-- What is gathered by key: the keys that occur, each with what its own changes come to. -/
theorem foldl_update
    (start : α)
    (change : β → α → α) :
    items.foldl (fun entries item => update (key item) start (change item) entries) [] =
      valuesOf keys fun other =>
        let mine := items.filter fun item => decide (key item = other)
        if mine = [] then none
        else some (mine.foldl (fun value item => change item value) start) := by
  have hnone : valuesOf keys (fun _ => (none : Option α)) = [] := by
    simp [valuesOf]
  rw [← hnone, foldl_update_valuesOf hkeys hcover]
  rfl

end Update

section Total

theorem total_eq_sum
    (counts : List Nat) :
    total counts = counts.sum := by
  rfl

theorem total_perm
    {counts counts' : List Nat}
    (hperm : counts.Perm counts') :
    total counts = total counts' := by
  rw [total_eq_sum, total_eq_sum]
  exact hperm.sum_nat

end Total

@[simp] theorem countName_nil
    (name : String) :
    countName name [] = [(name, 1)] := by
  rfl

theorem countName_cons
    (name first : String)
    (count : Nat)
    (rest : List (String × Nat)) :
    countName name ((first, count) :: rest) =
      if name = first then (first, count + 1) :: rest
      else if name < first then (name, 1) :: (first, count) :: rest
      else (first, count) :: countName name rest := by
  rfl

/-- How often a name has been counted. -/
def countOf
    (name : String) : List (String × Nat) → Nat
  | [] => 0
  | (other, count) :: rest => if name = other then count else countOf name rest

/-- The entries are in the order of their names, each name is there once, and none without reason. -/
structure Tallied
    (counts : List (String × Nat)) : Prop where
  ordered : (counts.map Prod.fst).Pairwise (· < ·)
  positive : ∀ entry ∈ counts, 0 < entry.2

namespace Tallied

theorem nil :
    Tallied [] where
  ordered := List.Pairwise.nil
  positive := by simp

theorem tail
    {entry : String × Nat}
    {rest : List (String × Nat)}
    (htallied : Tallied (entry :: rest)) :
    Tallied rest where
  ordered := (List.pairwise_cons.mp htallied.ordered).2
  positive other hother := htallied.positive other (List.mem_cons_of_mem entry hother)

/-- The first name is before all others. -/
theorem lt_of_mem
    {entry : String × Nat}
    {rest : List (String × Nat)}
    (htallied : Tallied (entry :: rest))
    {name : String}
    (hname : name ∈ rest.map Prod.fst) :
    entry.1 < name :=
  (List.pairwise_cons.mp htallied.ordered).1 name hname

theorem cons
    {entry : String × Nat}
    {rest : List (String × Nat)}
    (hfirst : ∀ name ∈ rest.map Prod.fst, entry.1 < name)
    (hcount : 0 < entry.2)
    (hrest : Tallied rest) :
    Tallied (entry :: rest) where
  ordered := List.pairwise_cons.mpr ⟨hfirst, hrest.ordered⟩
  positive := List.forall_mem_cons.mpr ⟨hcount, hrest.positive⟩

end Tallied

theorem countOf_of_not_mem
    {name : String}
    {counts : List (String × Nat)}
    (hname : name ∉ counts.map Prod.fst) :
    countOf name counts = 0 := by
  induction counts with
  | nil =>
      rfl
  | cons entry rest ih =>
      rw [List.map_cons, List.mem_cons, not_or] at hname
      rw [countOf, if_neg hname.1]
      exact ih hname.2

/-- An entry says how often its name has been counted, and every counted name has one. -/
theorem Tallied.mem_iff
    {counts : List (String × Nat)}
    (htallied : Tallied counts)
    (name : String)
    (count : Nat) :
    (name, count) ∈ counts ↔ countOf name counts = count ∧ 0 < count := by
  induction counts with
  | nil =>
      simp [countOf]
      omega
  | cons entry rest ih =>
      obtain ⟨other, first⟩ := entry
      have hfirst : 0 < first := htallied.positive (other, first) List.mem_cons_self
      by_cases hname : name = other
      · subst hname
        have hrest : (name, count) ∉ rest := by
          intro hmem
          have hlt : name < name := htallied.lt_of_mem (List.mem_map_of_mem hmem)
          exact String.lt_irrefl name hlt
        simp only [List.mem_cons, Prod.mk.injEq, true_and, hrest, or_false, countOf, if_true]
        constructor
        · rintro rfl
          exact ⟨rfl, hfirst⟩
        · rintro ⟨rfl, -⟩
          rfl
      · simp only [List.mem_cons, Prod.mk.injEq, hname, false_and, false_or, countOf, if_false]
        exact ih htallied.tail

section Step

variable (name : String)

/-- Counting a name adds it to the names and nothing else. -/
theorem mem_names_countName
    (other : String)
    (counts : List (String × Nat)) :
    other ∈ (countName name counts).map Prod.fst ↔
      other = name ∨ other ∈ counts.map Prod.fst := by
  induction counts with
  | nil =>
      simp
  | cons entry rest ih =>
      obtain ⟨first, count⟩ := entry
      by_cases heq : name = first
      · simp [countName_cons, heq]
      · by_cases hlt : name < first
        · simp [countName_cons, heq, hlt]
        · simp only [countName_cons, heq, hlt, if_false, List.map_cons, List.mem_cons, ih]
          exact or_left_comm

/-- Counting keeps the entries in order. -/
theorem Tallied.countName
    {counts : List (String × Nat)}
    (htallied : Tallied counts) :
    Tallied (countName name counts) := by
  induction counts with
  | nil =>
      exact Tallied.cons (by simp) Nat.one_pos Tallied.nil
  | cons entry rest ih =>
      obtain ⟨first, count⟩ := entry
      have hcount : 0 < count := htallied.positive (first, count) List.mem_cons_self
      by_cases heq : name = first
      · rw [countName_cons, if_pos heq]
        exact Tallied.cons (fun _ => htallied.lt_of_mem) (Nat.succ_pos count) htallied.tail
      · by_cases hlt : name < first
        · rw [countName_cons, if_neg heq, if_pos hlt]
          refine Tallied.cons ?_ Nat.one_pos htallied
          intro other hother
          rcases List.mem_cons.mp hother with rfl | hrest
          · exact hlt
          · exact String.lt_trans hlt (htallied.lt_of_mem hrest)
        · rw [countName_cons, if_neg heq, if_neg hlt]
          refine Tallied.cons ?_ hcount (ih htallied.tail)
          intro other hother
          rcases (mem_names_countName name other rest).mp hother with rfl | hrest
          · exact lt_of_le_of_ne (String.not_lt.mp hlt) (Ne.symm heq)
          · exact htallied.lt_of_mem hrest

/-- A name is counted once more, and all others as often as before. -/
theorem countOf_countName
    {counts : List (String × Nat)}
    (htallied : Tallied counts)
    (other : String) :
    countOf other (countName name counts) =
      countOf other counts + if other = name then 1 else 0 := by
  induction counts with
  | nil =>
      simp [countOf]
  | cons entry rest ih =>
      obtain ⟨first, count⟩ := entry
      by_cases heq : name = first
      · subst heq
        by_cases hother : other = name <;> simp [countName_cons, countOf, hother]
      · by_cases hlt : name < first
        · -- A name in front of the first one is not behind it.
          have hnew : countOf name ((first, count) :: rest) = 0 := by
            apply countOf_of_not_mem
            intro hname
            rcases List.mem_cons.mp hname with hfirst | hrest
            · exact heq hfirst
            · exact String.lt_irrefl name (String.lt_trans hlt (htallied.lt_of_mem hrest))
          rw [countName_cons, if_neg heq, if_pos hlt, countOf]
          by_cases hother : other = name
          · subst hother
            simp [hnew]
          · simp [hother]
        · rw [countName_cons, if_neg heq, if_neg hlt, countOf, countOf]
          by_cases hfirst : other = first
          · simp [hfirst, Ne.symm heq]
          · simp only [hfirst, if_false]
            exact ih htallied.tail

theorem total_countName
    (counts : List (String × Nat)) :
    total ((countName name counts).map Prod.snd) = total (counts.map Prod.snd) + 1 := by
  simp only [total_eq_sum]
  induction counts with
  | nil =>
      rfl
  | cons entry rest ih =>
      obtain ⟨first, count⟩ := entry
      rw [countName_cons]
      split
      · simp only [List.map_cons, List.sum_cons]
        omega
      · split
        · simp only [List.map_cons, List.sum_cons]
          omega
        · simp only [List.map_cons, List.sum_cons, ih]
          omega

end Step

section Run

/-- Counting more names: the entries stay in order, and each name is counted as often as it comes. -/
theorem tallied_foldl_countName
    (names : List String)
    {counts : List (String × Nat)}
    (htallied : Tallied counts) :
    let counted := names.foldl (fun counts name => countName name counts) counts
    Tallied counted ∧
      (∀ name, countOf name counted = countOf name counts + names.count name) ∧
      total (counted.map Prod.snd) = total (counts.map Prod.snd) + names.length := by
  induction names generalizing counts with
  | nil =>
      exact ⟨htallied, fun name => rfl, rfl⟩
  | cons first rest ih =>
      obtain ⟨hordered, hcount, htotal⟩ := ih (htallied.countName first)
      refine ⟨hordered, ?_, ?_⟩
      · intro name
        rw [List.foldl_cons, hcount, countOf_countName first htallied, List.count_cons]
        by_cases hname : name = first
        · simp [hname]
          omega
        · simp [hname, Ne.symm hname]
      · rw [List.foldl_cons, htotal, total_countName, List.length_cons]
        omega

theorem tallied_countNames
    (names : List String) :
    Tallied (countNames names) :=
  (tallied_foldl_countName names Tallied.nil).1

/-- The entries are the names that occur, each with how often it does. -/
theorem mem_countNames_iff
    (names : List String)
    (name : String)
    (count : Nat) :
    (name, count) ∈ countNames names ↔ name ∈ names ∧ count = names.count name := by
  have hcount : countOf name (countNames names) = names.count name := by
    rw [countNames, (tallied_foldl_countName names Tallied.nil).2.1, countOf, Nat.zero_add]
  rw [(tallied_countNames names).mem_iff, hcount, ← List.count_pos_iff]
  constructor
  · rintro ⟨rfl, hpos⟩
    exact ⟨hpos, rfl⟩
  · rintro ⟨hpos, rfl⟩
    exact ⟨rfl, hpos⟩

theorem total_countNames
    (names : List String) :
    total ((countNames names).map Prod.snd) = names.length := by
  rw [countNames, (tallied_foldl_countName names Tallied.nil).2.2]
  exact Nat.zero_add names.length

/-- Names are counted alike in any order. -/
theorem countNames_perm
    {names names' : List String}
    (hperm : names.Perm names') :
    countNames names = countNames names' := by
  have hordered : ∀ names : List String,
      (countNames names).Pairwise fun entry other => entry.1 < other.1 := fun names =>
    List.pairwise_map.mp (tallied_countNames names).ordered
  have hentries : ∀ entry, entry ∈ countNames names ↔ entry ∈ countNames names' := by
    rintro ⟨name, count⟩
    rw [mem_countNames_iff, mem_countNames_iff, hperm.mem_iff, hperm.count_eq]
  have hnodup : ∀ names : List String, (countNames names).Nodup := by
    intro names
    apply (hordered names).imp
    rintro entry _ hlt rfl
    exact String.lt_irrefl _ hlt
  apply List.Perm.eq_of_pairwise _ (hordered names) (hordered names')
    ((List.perm_ext_iff_of_nodup (hnodup names) (hnodup names')).mpr hentries)
  intro entry other _ _ hlt hgt
  exact absurd (String.lt_trans hlt hgt) (String.lt_irrefl _)

end Run

end Counting
end CodeAudit
