import CodeAudit.Json.Reader
import CodeAudit.Proofs.Floating.Bounds

/-!
# Numbers in documents

JSON has no text for an infinity or for what is not a number.  So a number that is not finite is
written as `null`, and a number that is read is always one: a numeral beyond the range of the format
is a fault, and scaling a significand by a power of ten divides by a positive number only.

**Results.**
* `numberText_eq_null_iff`: a number is written as `null` exactly if it is not finite.
* `Numeral.isFinite_of_value`: a real numeral stands for a finite number.
* `Reader.real_yields`: what is read as a real number is a number.
-/

namespace CodeAudit
namespace Json

open Floating BinaryFormat

section Written

/-- The text of a decimal has a point or a signed exponent. -/
theorem exists_mark_mem_text
    (d : Decimal) :
    ∃ c ∈ d.text.toList, c = '.' ∨ c = '-' ∨ c = '+' := by
  unfold Decimal.text
  simp only
  split
  · refine ⟨'.', ?_, Or.inl rfl⟩
    unfold Decimal.positional
    simp only
    split <;> simp
  · unfold Decimal.scientific
    simp only [String.toList_append, List.mem_append]
    by_cases hsign : d.exponent + ((Nat.toDigits 10 d.digits).length - 1 : Nat) < 0
    · refine ⟨'-', Or.inl (Or.inr ?_), Or.inr (Or.inl rfl)⟩
      rw [if_pos hsign]
      decide
    · refine ⟨'+', Or.inl (Or.inr ?_), Or.inr (Or.inr rfl)⟩
      rw [if_neg hsign]
      decide

theorem shortestText?_ne_null
    (format : BinaryFormat)
    (x : Floating) :
    x.shortestText? format ≠ some "null" := by
  have hmark : ∀ text : String,
      (∃ c ∈ text.toList, c = '.' ∨ c = '-' ∨ c = '+') → some text ≠ some "null" := by
    rintro text ⟨c, hmem, hc⟩ heq
    obtain rfl : text = "null" := Option.some.inj heq
    have hletters : "null".toList = ['n', 'u', 'l', 'l'] := by decide
    rw [hletters] at hmem
    rcases hc with rfl | rfl | rfl <;> simp at hmem
  unfold shortestText?
  split
  · simp
  · simp
  · decide
  · split
    · decide
    · split
      · exact hmark _ ⟨'-', by simp, by simp⟩
      · exact hmark _ (exists_mark_mem_text _)

/-- Exactly the numbers that are not finite are written as `null`. -/
theorem numberText_eq_null_iff
    (format : BinaryFormat)
    (x : Floating) :
    numberText format x = "null" ↔ x.isFinite = false := by
  have htext : x.shortestText? format = none ↔ x.isFinite = false := by
    cases x with
    | num value =>
        simp only [shortestText?, isFinite, value?]
        split
        · simp
        · split <;> simp
    | _ =>
        simp [shortestText?, isFinite, value?]
  rw [← htext, numberText]
  cases hshort : x.shortestText? format with
  | none =>
      simp
  | some text =>
      have hne : text ≠ "null" := by
        rintro rfl
        exact shortestText?_ne_null format x hshort
      simp [hne]

end Written

section Read

theorem tenPow_natCast
    (n : Nat) :
    tenPow n = 10 ^ n := by
  simp [tenPow]

/-- The bound of the numbers that are scaled. -/
theorem holds_scaled :
    double.Holds (2 ^ 64) := by
  simpa using holds_natCast_mul_pow (n := 1) (d := 1) (p := 64) (by decide) (by decide)
    (by decide)

/-- A power of ten that a number is divided by is at least one. -/
theorem within_ofRat_tenPow
    {power : Nat}
    (hle : power ≤ 308) :
    ∃ high, Within 1 high (ofRat (tenPow power)) := by
  have hhigh : double.Holds (3 * 2 ^ 1022) := by
    exact_mod_cast holds_natCast_mul_pow (n := 3) (d := 2) (by decide) (by decide) le_rfl
  refine ⟨_, Rounds.within (Or.inl rfl) holds_one hhigh ?_ ?_⟩
  · rw [tenPow_natCast]
    exact one_le_pow₀ (by norm_num)
  · rw [tenPow_natCast]
    calc (10 : Rat) ^ power ≤ 10 ^ 308 := pow_le_pow_right₀ (by norm_num) hle
      _ ≤ 3 * 2 ^ 1022 := by
          exact_mod_cast (show (10 : Nat) ^ 308 ≤ 3 * 2 ^ 1022 by decide +kernel)

namespace Numeral

theorem within_scaleDown
    {x : Floating}
    (hx : Within 0 (2 ^ 64) x)
    (fuel power : Nat) :
    Within 0 (2 ^ 64) (scaleDown fuel x power) := by
  have hstep : ∀ {x : Floating} {power : Nat}, Within 0 (2 ^ 64) x → power ≤ 308 →
      Within 0 (2 ^ 64) (x / ofRat (tenPow power)) := by
    rintro x power ⟨q, hvalue, hnonneg, hle⟩ hpower
    obtain ⟨high, d, hdivisor, hone, -⟩ := within_ofRat_tenPow hpower
    have hpos : 0 < d := one_pos.trans_le hone
    apply (rounds_div hvalue hdivisor hpos.ne').within holds_zero holds_scaled
    · exact div_nonneg hnonneg hpos.le
    · exact (div_le_self hnonneg hone).trans hle
  induction fuel generalizing x power with
  | zero =>
      exact hx
  | succ fuel ih =>
      rw [scaleDown]
      split
      · next hpower => exact hstep hx hpower
      · split
        · exact hx
        · exact ih (hstep hx le_rfl) _

/-- The greatest significand is the bound of the numbers that are scaled. -/
theorem within_significand
    {significand : Nat}
    (hle : significand ≤ greatestSignificand) :
    Within 0 (2 ^ 64) (ofNat significand) := by
  apply Rounds.within (Or.inl rfl) holds_zero holds_scaled (Nat.cast_nonneg _)
  have hbound : significand ≤ 2 ^ 64 := hle.trans (by decide)
  exact_mod_cast hbound

/-- A significand that is scaled gives a finite number. -/
theorem isFinite_of_scaled?
    {significand : Nat}
    (hle : significand ≤ greatestSignificand)
    {power : Int}
    {x : Floating}
    (hscaled : scaled? significand power = some x) :
    x.isFinite = true := by
  unfold scaled? at hscaled
  simp only at hscaled
  split at hscaled
  · split at hscaled
    · split at hscaled
      · next hproduct => rwa [← Option.some.inj hscaled]
      · cases hscaled
    · split at hscaled
      · rw [← Option.some.inj hscaled]
        exact (within_significand hle).isFinite
      · cases hscaled
  · rw [← Option.some.inj hscaled]
    exact (within_scaleDown (within_significand hle) _ _).isFinite

theorem absorbWhole_le
    {significand : Nat}
    (hle : significand ≤ greatestSignificand)
    (digits : List Nat) :
    (absorbWhole significand digits).1 ≤ greatestSignificand := by
  induction digits generalizing significand with
  | nil =>
      exact hle
  | cons d rest ih =>
      rw [absorbWhole]
      split
      · exact hle
      · next hnext => exact ih (Nat.not_lt.mp hnext)

theorem absorbFraction_le
    {significand : Nat}
    (hle : significand ≤ greatestSignificand)
    (digits : List Nat) :
    (absorbFraction significand digits).1 ≤ greatestSignificand := by
  induction digits generalizing significand with
  | nil =>
      exact hle
  | cons d rest ih =>
      rw [absorbFraction]
      split
      · exact hle
      · next hnext => exact ih (Nat.not_lt.mp hnext)

theorem isFinite_neg
    {x : Floating}
    (hx : x.isFinite = true) :
    (-x).isFinite = true := by
  change (neg x).isFinite = true
  cases x with
  | num value =>
      rw [neg]
      split <;> rfl
  | negativeZero =>
      rfl
  | _ =>
      cases hx

theorem isFinite_signed
    (n : Numeral)
    {x : Floating}
    (hx : x.isFinite = true) :
    (n.signed x).isFinite = true := by
  unfold signed
  split
  · exact isFinite_neg hx
  · exact hx

theorem isFinite_of_real
    {n : Numeral}
    {x : Floating}
    (hreal : n.real = .real x) :
    x.isFinite = true := by
  have hwhole := absorbWhole_le (Nat.zero_le greatestSignificand) n.whole
  have hsignificand := absorbFraction_le hwhole (n.fraction.getD [])
  unfold real at hreal
  simp only at hreal
  -- However the exponent is found, the significand is scaled, or a zero takes its place.
  have hscale : ∀ {power y},
      scaled? (absorbFraction (absorbWhole 0 n.whole).1 (n.fraction.getD [])).1 power = some y →
        NumeralValue.real (n.signed y) = .real x → x.isFinite = true := by
    intro power y hscaled hfound
    rw [← NumeralValue.real.inj hfound]
    exact isFinite_signed n (isFinite_of_scaled? hsignificand hscaled)
  split at hreal
  · split at hreal
    · next y hscaled => exact hscale hscaled hreal
    · cases hreal
  · split at hreal
    · split at hreal
      · next y hscaled => exact hscale hscaled hreal
      · cases hreal
    · split at hreal
      · cases hreal
      · rw [← NumeralValue.real.inj hreal]
        exact isFinite_signed n rfl

/-- A numeral that is no integer stands for a finite number, if for any. -/
theorem isFinite_of_value
    {n : Numeral}
    {x : Floating}
    (hvalue : n.value = .real x) :
    x.isFinite = true := by
  unfold value at hvalue
  split at hvalue
  · exact isFinite_of_real hvalue
  · split at hvalue
    · next magnitude habsorbed =>
        split at hvalue
        · cases hvalue
        · split at hvalue
          · have hle := absorbWhole_le (Nat.zero_le greatestSignificand) n.whole
            rw [habsorbed] at hle
            rw [← NumeralValue.real.inj hvalue]
            exact isFinite_neg (within_significand hle).isFinite
          · cases hvalue
    · exact isFinite_of_real hvalue

end Numeral

/-- What is read as a real number is a number. -/
theorem Reader.real_yields
    {node : Node}
    {value : Value}
    (hread : Reader.real node = .ok value) :
    ∃ x, value = .real x ∧ x ≠ .nan := by
  unfold Reader.real at hread
  split at hread
  · split at hread
    · next integer _ =>
        exact ⟨ofRat integer, (Except.ok.inj hread).symm, ofRat_ne_nan _⟩
    · next x hreal =>
        refine ⟨x, (Except.ok.inj hread).symm, ?_⟩
        rintro rfl
        cases Numeral.isFinite_of_value hreal
    · cases hread
  · cases hread

end Read

end Json
end CodeAudit
