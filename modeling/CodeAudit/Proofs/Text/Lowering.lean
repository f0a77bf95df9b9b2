import CodeAudit.Text.Case
import Mathlib.Data.List.Basic

/-!
# Dots in lower-case texts

The lower-case form of a character may have another length and, for a capital sigma, depends on its
neighbours.  But no character other than a dot gets a dot, so a text and its lower-case form are cut
at the same dots; and a form that is plain ASCII comes from a text without a capital sigma, in which
every character stands on its own.

**Results.**
* `lowerAfter_append`: the lower-case form of a text in two parts.
* `dot_not_mem_lowerAfter`: no dot appears.
* `lowerAfter_eq_iff_of_ascii`: what is before a text does not matter to a form in ASCII.
-/

namespace CodeAudit
namespace Text

/-- The lower-case form of a character between two texts, the first one reversed. -/
def lowerBetween
    (before : List Char)
    (c : Char)
    (rest : List Char) : List Char :=
  if c.toNat == 0x3a3 then
    if meetsCased before && !meetsCased rest then [Char.ofNat 0x3c2] else [Char.ofNat 0x3c3]
  else lowerChar c

theorem lowerAfter_cons
    (before : List Char)
    (c : Char)
    (rest : List Char) :
    lowerAfter before (c :: rest) =
      lowerBetween before c rest ++ lowerAfter (c :: before) rest := by
  rfl

section Character

theorem toLower_eq_dot_iff
    {c : Char}
    (hascii : c.toNat < 128) :
    c.toLower = '.' ↔ c = '.' := by
  have hall : ∀ n < 128, (Char.ofNat n).toLower = '.' ↔ Char.ofNat n = '.' := by
    decide +kernel
  have hc := hall c.toNat hascii
  rwa [Char.ofNat_toNat] at hc

theorem ofNat_ne_dot
    {n : Nat}
    (hn : n ≠ 46) :
    Char.ofNat n ≠ '.' := by
  intro hdot
  have hcode := congrArg Char.toNat hdot
  by_cases hvalid : n.isValidChar
  · rw [Char.ofNat, dif_pos hvalid] at hcode
    exact hn hcode
  · rw [Char.ofNat, dif_neg hvalid] at hcode
    exact absurd hcode (by decide)

/-- Every run of the table ends up beyond the dot. -/
theorem beyond_dot_of_mem_lowerRuns :
    ∀ run ∈ lowerRuns.toList, (46 : Int) < run.1 + run.2.2.2 := by
  decide +kernel

theorem dot_mem_lowerChar_iff
    (c : Char) :
    '.' ∈ lowerChar c ↔ c = '.' := by
  unfold lowerChar
  by_cases hascii : c.toNat < 128
  · rw [if_pos hascii, List.mem_singleton, eq_comm, toLower_eq_dot_iff hascii]
  · have hc : c ≠ '.' := by
      rintro rfl
      exact hascii (by decide)
    simp only [hascii, hc, if_false, iff_false]
    split
    · decide
    · split
      · next first last step offset hrun =>
          have hmem := beyond_dot_of_mem_lowerRuns _ (Array.mem_of_find?_eq_some hrun).val
          have hrange := Array.find?_some hrun
          simp only [Bool.and_eq_true, decide_eq_true_eq] at hmem hrange
          rw [List.mem_singleton, eq_comm]
          apply ofNat_ne_dot
          omega
      · rw [List.mem_singleton, eq_comm]
        exact hc

theorem lowerChar_ne_nil
    (c : Char) :
    lowerChar c ≠ [] := by
  simp only [lowerChar]
  split
  · simp
  · split
    · simp
    · split <;> simp

theorem dot_mem_lowerBetween_iff
    (before : List Char)
    (c : Char)
    (rest : List Char) :
    '.' ∈ lowerBetween before c rest ↔ c = '.' := by
  unfold lowerBetween
  by_cases hsigma : c.toNat == 0x3a3
  · have hc : c ≠ '.' := by
      rintro rfl
      exact absurd hsigma (by decide)
    rw [if_pos hsigma]
    split
    · simp [hc]
    · simp [hc]
  · rw [if_neg hsigma]
    exact dot_mem_lowerChar_iff c

theorem lowerBetween_dot
    (before rest : List Char) :
    lowerBetween before '.' rest = ['.'] := by
  rfl

theorem lowerBetween_ne_nil
    (before : List Char)
    (c : Char)
    (rest : List Char) :
    lowerBetween before c rest ≠ [] := by
  unfold lowerBetween
  split
  · split <;> simp
  · exact lowerChar_ne_nil c

end Character

section Text

/-- No dot appears in a lower-case form. -/
theorem dot_not_mem_lowerAfter
    {text : List Char}
    (hdot : '.' ∉ text)
    (before : List Char) :
    '.' ∉ lowerAfter before text := by
  induction text generalizing before with
  | nil =>
      simp [lowerAfter]
  | cons c rest ih =>
      rw [List.mem_cons, not_or] at hdot
      rw [lowerAfter_cons, List.mem_append, dot_mem_lowerBetween_iff, not_or]
      exact ⟨fun hc => hdot.1 hc.symm, ih hdot.2 (c :: before)⟩

/-- The lower-case form of a text in two parts begins with one of the first part, which is empty only
if the first part is. -/
theorem lowerAfter_append
    (before first second : List Char) :
    ∃ lowered,
      lowerAfter before (first ++ second) =
          lowered ++ lowerAfter (first.reverse ++ before) second ∧
        (lowered = [] ↔ first = []) := by
  induction first generalizing before with
  | nil =>
      exact ⟨[], by simp, by simp⟩
  | cons c rest ih =>
      obtain ⟨lowered, hlowered, -⟩ := ih (c :: before)
      refine ⟨lowerBetween before c (rest ++ second) ++ lowered, ?_, ?_⟩
      · rw [List.cons_append, lowerAfter_cons, hlowered]
        simp
      · simp [lowerBetween_ne_nil]

/-- Without a capital sigma every character has its form on its own. -/
theorem lowerAfter_eq_flatMap
    {text : List Char}
    (hsigma : ∀ c ∈ text, c.toNat ≠ 0x3a3)
    (before : List Char) :
    lowerAfter before text = text.flatMap lowerChar := by
  induction text generalizing before with
  | nil =>
      rfl
  | cons c rest ih =>
      have hc : (c.toNat == 0x3a3) = false := by
        rw [beq_eq_false_iff_ne]
        exact hsigma c List.mem_cons_self
      have hrest : ∀ other ∈ rest, other.toNat ≠ 0x3a3 := by
        intro other hother
        exact hsigma other (List.mem_cons_of_mem c hother)
      rw [lowerAfter_cons, ih hrest, List.flatMap_cons, lowerBetween, hc]
      rfl

/-- A text of small ASCII letters and marks is its own lower-case form. -/
theorem lowerCase_eq_self
    {text : String}
    (hplain : ∀ c ∈ text.toList, c.toNat < 128 ∧ c.toLower = c) :
    lowerCase text = text := by
  have hsigma : ∀ c ∈ text.toList, c.toNat ≠ 0x3a3 := by
    intro c hc hsigma
    have hascii := (hplain c hc).1
    omega
  have hchars : text.toList.flatMap lowerChar = text.toList.flatMap fun c => [c] := by
    apply List.flatMap_congr
    intro c hc
    obtain ⟨hascii, hlower⟩ := hplain c hc
    rw [lowerChar, if_pos hascii, hlower]
  rw [lowerCase, lowerAfter_eq_flatMap hsigma, hchars, List.flatMap_singleton',
    String.ofList_toList]

/-- A capital sigma gives no form in ASCII. -/
theorem no_sigma_of_ascii
    {before text : List Char}
    (hascii : ∀ c ∈ lowerAfter before text, c.toNat < 128) :
    ∀ c ∈ text, c.toNat ≠ 0x3a3 := by
  induction text generalizing before with
  | nil =>
      simp
  | cons c rest ih =>
      rw [lowerAfter_cons] at hascii
      intro other hother
      rcases List.mem_cons.mp hother with rfl | hother
      · intro hsigma
        have hlowered : ∀ d ∈ lowerBetween before other rest, d.toNat < 128 := by
          intro d hd
          exact hascii d (List.mem_append_left _ hd)
        rw [lowerBetween, hsigma, if_pos (by decide)] at hlowered
        split at hlowered
        · exact absurd (hlowered _ List.mem_cons_self) (by decide)
        · exact absurd (hlowered _ List.mem_cons_self) (by decide)
      · have hrest : ∀ d ∈ lowerAfter (c :: before) rest, d.toNat < 128 := by
          intro d hd
          exact hascii d (List.mem_append_right _ hd)
        exact ih hrest other hother

/-- What stands before a text does not matter to a lower-case form in ASCII. -/
theorem lowerAfter_eq_iff_of_ascii
    {form : List Char}
    (hascii : ∀ c ∈ form, c.toNat < 128)
    (before before' text : List Char) :
    lowerAfter before text = form ↔ lowerAfter before' text = form := by
  constructor
  · rintro rfl
    have hsigma := no_sigma_of_ascii hascii
    rw [lowerAfter_eq_flatMap hsigma, lowerAfter_eq_flatMap hsigma]
  · rintro rfl
    have hsigma := no_sigma_of_ascii hascii
    rw [lowerAfter_eq_flatMap hsigma, lowerAfter_eq_flatMap hsigma]

end Text

end Text
end CodeAudit
