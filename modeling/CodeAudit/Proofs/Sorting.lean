import Mathlib.Data.List.Forall2

/-!
# Stable sorting

Lists of files, findings and steps are sorted by a comparison that may call different elements
equal; these keep the order they had.  So it does not matter whether elements are left out before
or after sorting, and the order of a list matters only if two of its elements are called equal.

**Results.**
* `eq_of_split`: the elements below a bound are determined by a sorted list.
* `filter_mergeSort`: sorting and filtering commute.
* `pairwise_mergeSort_stable`: elements that are called equal keep their order.
* `exists_rest_of_take_mergeSort`: the first elements of a sorted list, and those that are left out.
* `mergeSort_eq_of_perm`: a sort that calls no two elements equal forgets the order of the list.
* `forall₂_mergeSort`: lists that correspond are sorted alike.
* `mergeSort_eq_flatMap_filter`: a list is sorted by a rank if its groups are put one after another.
-/

namespace CodeAudit
namespace Sorting

variable {α : Type}

/-- The part of a list in front of a bound, if the list is cut there. -/
theorem takeWhile_of_split
    {below : α → Bool}
    {front back : List α}
    (hfront : ∀ b ∈ front, below b = true)
    (hback : ∀ b ∈ back, below b = false) :
    (front ++ back).takeWhile below = front := by
  rw [List.takeWhile_append_of_pos hfront]
  cases back with
  | nil =>
      simp
  | cons b back =>
      have hb : below b = false := hback b List.mem_cons_self
      simp [hb]

/-- A list is cut at a bound in one way only. -/
theorem eq_of_split
    {below : α → Bool}
    {front back front' back' : List α}
    (hlist : front ++ back = front' ++ back')
    (hfront : ∀ b ∈ front, below b = true)
    (hback : ∀ b ∈ back, below b = false)
    (hfront' : ∀ b ∈ front', below b = true)
    (hback' : ∀ b ∈ back', below b = false) :
    front = front' ∧ back = back' := by
  have hfronts : front = front' := by
    rw [← takeWhile_of_split hfront hback, hlist]
    exact takeWhile_of_split hfront' hback'
  subst hfronts
  exact ⟨rfl, List.append_cancel_left hlist⟩

section MergeSort

variable {le : α → α → Bool}
variable (trans : ∀ a b c : α, le a b → le b c → le a c)
variable (total : ∀ a b : α, le a b || le b a)

include trans total

/-- Sorting puts one more element in front of the first element that is not below it. -/
theorem mergeSort_cons_split
    (a : α)
    (l : List α) :
    ∃ front back,
      (a :: l).mergeSort le = front ++ a :: back ∧
        l.mergeSort le = front ++ back ∧
        (∀ b ∈ front, (!le a b) = true) ∧
        (∀ b ∈ back, (!le a b) = false) := by
  obtain ⟨front, back, hcons, hrest, hfront⟩ := List.mergeSort_cons trans total a l
  refine ⟨front, back, hcons, hrest, hfront, ?_⟩
  intro b hb
  have hsorted := List.pairwise_mergeSort trans total (a :: l)
  rw [hcons, List.pairwise_append] at hsorted
  have hab : le a b = true := List.rel_of_pairwise_cons hsorted.2.1 hb
  simp [hab]

/-- Elements may be left out before or after sorting. -/
theorem filter_mergeSort
    (keep : α → Bool)
    (l : List α) :
    (l.mergeSort le).filter keep = (l.filter keep).mergeSort le := by
  induction l with
  | nil =>
      simp
  | cons a l ih =>
      obtain ⟨front, back, hcons, hrest, hfront, hback⟩ :=
        mergeSort_cons_split trans total a l
      rw [hrest, List.filter_append] at ih
      rw [hcons, List.filter_append]
      cases hkeep : keep a with
      | false =>
          simp [hkeep, ih]
      | true =>
          obtain ⟨front', back', hcons', hrest', hfront', hback'⟩ :=
            mergeSort_cons_split trans total a (l.filter keep)
          rw [hrest'] at ih
          obtain ⟨hfronts, hbacks⟩ :=
            eq_of_split ih
              (fun b hb => hfront b (List.mem_of_mem_filter hb))
              (fun b hb => hback b (List.mem_of_mem_filter hb))
              hfront' hback'
          rw [List.filter_cons_of_pos hkeep, List.filter_cons_of_pos hkeep,
            hcons', hfronts, hbacks]

/-- Sorting is stable: elements that are called equal keep the order they had. -/
theorem pairwise_mergeSort_stable
    {R : α → α → Prop}
    {l : List α}
    (hl : l.Pairwise R) :
    (l.mergeSort le).Pairwise fun a b => le a b = true ∧ (le b a = true → R a b) := by
  rw [List.pairwise_iff_forall_sublist] at hl ⊢
  intro a b hab
  have hsorted := List.pairwise_mergeSort trans total l
  rw [List.pairwise_iff_forall_sublist] at hsorted
  refine ⟨hsorted hab, ?_⟩
  intro hba
  have hbb : le b b = true := by
    simpa using total b b
  -- The elements that are called equal to `b` are sorted as they stand, so sorting leaves them so.
  have hgroup : (l.filter fun x => le x b && le b x).mergeSort le =
      l.filter fun x => le x b && le b x := by
    apply List.mergeSort_of_pairwise
    apply List.pairwise_of_forall_mem_list
    intro x hx y hy
    rw [List.mem_filter, Bool.and_eq_true] at hx hy
    exact trans x b y hx.2.1 hy.2.2
  have hkept := hab.filter fun x => le x b && le b x
  rw [filter_mergeSort trans total, hgroup] at hkept
  apply hl
  simpa [hsorted hab, hba, hbb] using hkept.trans List.filter_sublist

/-- A sorted list that is cut leaves out only elements that do not belong in front. -/
theorem exists_rest_of_take_mergeSort
    (k : Nat)
    (l : List α) :
    ∃ rest,
      ((l.mergeSort le).take k ++ rest).Perm l ∧
        ∀ a ∈ (l.mergeSort le).take k, ∀ b ∈ rest, le a b = true := by
  have hsorted := List.pairwise_mergeSort trans total l
  rw [← List.take_append_drop k (l.mergeSort le), List.pairwise_append] at hsorted
  refine ⟨(l.mergeSort le).drop k, ?_, hsorted.2.2⟩
  rw [List.take_append_drop]
  exact List.mergeSort_perm l le

/-- If no two elements of a list are called equal, it is sorted the same from any order. -/
theorem mergeSort_eq_of_perm
    {l l' : List α}
    (hperm : l.Perm l')
    (antisymm : ∀ a ∈ l, ∀ b ∈ l, le a b → le b a → a = b) :
    l.mergeSort le = l'.mergeSort le := by
  have hsorted := List.pairwise_mergeSort trans total l
  have hsorted' := List.pairwise_mergeSort trans total l'
  have hsorts : (l.mergeSort le).Perm (l'.mergeSort le) :=
    (List.mergeSort_perm l le).trans (hperm.trans (List.mergeSort_perm l' le).symm)
  apply List.Perm.eq_of_pairwise _ hsorted hsorted' hsorts
  intro a b ha hb
  have hal : a ∈ l := List.mem_mergeSort.mp ha
  have hbl : b ∈ l := hperm.mem_iff.mpr (List.mem_mergeSort.mp hb)
  exact antisymm a hal b hbl

end MergeSort

/-- Lists that correspond element by element, under comparisons that agree, are sorted alike. -/
theorem forall₂_mergeSort
    {β : Type}
    {R : α → β → Prop}
    {le : α → α → Bool}
    {le' : β → β → Bool}
    (hle : ∀ a b a' b', R a a' → R b b' → le a b = le' a' b')
    {l : List α}
    {l' : List β}
    (hrel : List.Forall₂ R l l') :
    List.Forall₂ R (l.mergeSort le) (l'.mergeSort le') := by
  -- Both lists are the sides of one list of pairs, and sorting the pairs sorts both sides.
  have hpairs : ∀ p ∈ l.zip l', R p.1 p.2 := fun p hp => List.forall₂_zip hrel hp
  have hleft : (l.zip l').map Prod.fst = l := List.map_fst_zip (Nat.le_of_eq hrel.length_eq)
  have hright : (l.zip l').map Prod.snd = l' := List.map_snd_zip (Nat.le_of_eq hrel.length_eq.symm)
  have hfirst := List.map_mergeSort (r := fun p q : α × β => le p.1 q.1) (s := le)
    (f := Prod.fst) (l := l.zip l') fun p _ q _ => rfl
  have hsecond := List.map_mergeSort (r := fun p q : α × β => le p.1 q.1) (s := le')
    (f := Prod.snd) (l := l.zip l') fun p hp q hq => hle _ _ _ _ (hpairs p hp) (hpairs q hq)
  rw [hleft] at hfirst
  rw [hright] at hsecond
  rw [← hfirst, ← hsecond, List.forall₂_map_left_iff, List.forall₂_map_right_iff]
  exact List.forall₂_same.mpr fun p hp => hpairs p (List.mem_mergeSort.mp hp)

section Rank

theorem rank_trans
    (rank : α → Nat)
    (a b c : α)
    (hab : decide (rank a ≤ rank b))
    (hbc : decide (rank b ≤ rank c)) :
    decide (rank a ≤ rank c) := by
  simp only [decide_eq_true_iff] at *
  exact Nat.le_trans hab hbc

theorem rank_total
    (rank : α → Nat)
    (a b : α) :
    decide (rank a ≤ rank b) || decide (rank b ≤ rank a) := by
  simpa using Nat.le_total (rank a) (rank b)

variable {rank : α → Nat}

/-- Elements of one rank in a sorted list, of which no rank is less, stand in front of the others. -/
theorem eq_filter_append_filter
    {l : List α}
    (hsorted : l.Pairwise fun a b => rank a ≤ rank b)
    (r : Nat)
    (hleast : ∀ a ∈ l, r ≤ rank a) :
    l = (l.filter fun a => decide (rank a = r)) ++ l.filter fun a => !decide (rank a = r) := by
  induction l with
  | nil =>
      rfl
  | cons a l ih =>
      rw [List.pairwise_cons] at hsorted
      have hrest : ∀ b ∈ l, r ≤ rank b := fun b hb => hleast b (List.mem_cons_of_mem a hb)
      by_cases ha : rank a = r
      · rw [List.filter_cons_of_pos (by simpa using ha), List.filter_cons_of_neg (by simpa using ha),
          List.cons_append, ← ih hsorted.2 hrest]
      · have hlt : r < rank a := Nat.lt_of_le_of_ne (hleast a List.mem_cons_self) (Ne.symm ha)
        have hothers : ∀ b ∈ a :: l, ¬rank b = r := by
          intro b hb
          rcases List.mem_cons.mp hb with rfl | hb
          · exact ha
          · exact Nat.ne_of_gt (Nat.lt_of_lt_of_le hlt (hsorted.1 b hb))
        have hnone : ((a :: l).filter fun b => decide (rank b = r)) = [] := by
          rw [List.filter_eq_nil_iff]
          simpa using hothers
        have hall : ((a :: l).filter fun b => !decide (rank b = r)) = a :: l := by
          rw [List.filter_eq_self]
          simpa using hothers
        rw [hnone, hall, List.nil_append]

/-- A sorted list is made of its groups. -/
theorem eq_flatMap_filter
    {l : List α}
    (hsorted : l.Pairwise fun a b => rank a ≤ rank b)
    {ranks : List Nat}
    (hranks : ranks.Pairwise (· < ·))
    (hmem : ∀ a ∈ l, rank a ∈ ranks) :
    l = ranks.flatMap fun r => l.filter fun a => decide (rank a = r) := by
  induction ranks generalizing l with
  | nil =>
      cases l with
      | nil =>
          rfl
      | cons a l =>
          exact absurd (hmem a List.mem_cons_self) List.not_mem_nil
  | cons r ranks ih =>
      rw [List.pairwise_cons] at hranks
      have hleast : ∀ a ∈ l, r ≤ rank a := by
        intro a ha
        rcases List.mem_cons.mp (hmem a ha) with heq | hlater
        · exact Nat.le_of_eq heq.symm
        · exact Nat.le_of_lt (hranks.1 _ hlater)
      have hothers := ih (l := l.filter fun a => !decide (rank a = r)) (hsorted.filter _)
        hranks.2 (by
          intro a ha
          rw [List.mem_filter, Bool.not_eq_true', decide_eq_false_iff_not] at ha
          exact (List.mem_cons.mp (hmem a ha.1)).resolve_left ha.2)
      rw [List.flatMap_cons]
      conv_lhs => rw [eq_filter_append_filter hsorted r hleast, hothers]
      congr 1
      apply List.flatMap_congr
      intro r' hr'
      rw [List.filter_filter]
      apply List.filter_congr
      intro a _
      have hne : rank a = r' → ¬rank a = r := fun heq h => by
        have hlt := hranks.1 r' hr'
        omega
      by_cases ha : rank a = r' <;> simp [ha]
      exact fun h => hne ha (ha.trans h)

/-- A list that is sorted by a rank is sorted. -/
theorem pairwise_mergeSort_rank
    (rank : α → Nat)
    (l : List α) :
    (l.mergeSort fun a b => decide (rank a ≤ rank b)).Pairwise fun a b => rank a ≤ rank b := by
  have hsorted := List.pairwise_mergeSort (rank_trans rank) (rank_total rank) l
  simpa only [decide_eq_true_eq] using hsorted

/-- Sorting by a rank keeps the elements of one rank in the order of the list. -/
theorem filter_mergeSort_rank
    (rank : α → Nat)
    (l : List α)
    (r : Nat) :
    ((l.mergeSort fun a b => decide (rank a ≤ rank b)).filter fun a => decide (rank a = r)) =
      l.filter fun a => decide (rank a = r) := by
  rw [filter_mergeSort (rank_trans rank) (rank_total rank)]
  apply List.mergeSort_of_pairwise
  -- All elements of a group have one rank.
  apply List.pairwise_of_forall_mem_list
  intro a ha b hb
  simp only [List.mem_filter, decide_eq_true_iff] at ha hb ⊢
  omega

/-- Sorting by a rank puts the groups of a list one after another, each in the order of the list. -/
theorem mergeSort_eq_flatMap_filter
    (rank : α → Nat)
    (l : List α)
    {ranks : List Nat}
    (hranks : ranks.Pairwise (· < ·))
    (hmem : ∀ a ∈ l, rank a ∈ ranks) :
    (l.mergeSort fun a b => decide (rank a ≤ rank b)) =
      ranks.flatMap fun r => l.filter fun a => decide (rank a = r) := by
  rw [eq_flatMap_filter (pairwise_mergeSort_rank rank l) hranks
    (fun a ha => hmem a (List.mem_mergeSort.mp ha))]
  exact List.flatMap_congr fun r _ => filter_mergeSort_rank rank l r

end Rank

end Sorting
end CodeAudit
