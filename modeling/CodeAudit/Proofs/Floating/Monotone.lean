import CodeAudit.Proofs.Floating.Bounds

/-!
# Rounding and arithmetic are monotone

Where two rationals have the same unit, rounding them is rounding to integers, which keeps their
order.  Where their units differ, a power of two lies between them that is a number of the format,
and rounding moves neither across it.

Numbers that are not negative are compared by `AtMost`, in which infinity is the greatest.  No
negative zero occurs among them, so every operation on them rounds its exact result, and a greater
operand gives no smaller result.

**Results.**
* `BinaryFormat.nearest_mono`: rounding keeps the order.
* `AtMost.add`, `AtMost.mul_num`, `AtMost.div_num`, `AtMost.maximum_num`: so do the operations.
* `AtMost.roundTenth`: and rounding to tenths.
* `AtMost.atLeast`, `NotBelow.atLeast`: comparisons in the program agree.
-/

namespace CodeAudit

section Integers

variable {q r : Rat}

theorem roundEven_mono
    (hle : q ≤ r) :
    roundEven q ≤ roundEven r := by
  by_cases hinteger : ∃ n : Int, q ≤ n ∧ (n : Rat) ≤ r
  · obtain ⟨n, hbelow, habove⟩ := hinteger
    exact (roundEven_le hbelow).trans (le_roundEven habove)
  · -- Without an integer between them both have the same floor, and the greater one is farther off.
    have hfloor : q.floor = r.floor := by
      have hmono : q.floor ≤ r.floor := Rat.floor_monotone hle
      have hnot : ¬ q ≤ r.floor := fun hq => hinteger ⟨r.floor, hq, Rat.floor_le r⟩
      exact le_antisymm hmono (Rat.le_floor_iff.mpr (not_le.mp hnot).le)
    unfold roundEven
    simp only [hfloor]
    split_ifs <;> first | omega | linarith

theorem roundAway_mono
    (hle : q ≤ r) :
    roundAway q ≤ roundAway r := by
  by_cases hzero : q < 0 ∧ 0 ≤ r
  · have hbelow : roundAway q ≤ 0 := roundAway_le (by exact_mod_cast hzero.1.le)
    have habove : 0 ≤ roundAway r := le_roundAway (by exact_mod_cast hzero.2)
    exact hbelow.trans habove
  · unfold roundAway
    split_ifs with hq hr hr
    · have hmono : (-r + 1 / 2).floor ≤ (-q + 1 / 2).floor :=
        Rat.floor_monotone (by linarith)
      omega
    · exact absurd ⟨hq, not_lt.mp hr⟩ hzero
    · exact absurd (hle.trans_lt hr) hq
    · exact Rat.floor_monotone (by linarith)

end Integers

namespace BinaryFormat

variable {f : BinaryFormat} {q r : Rat}

/-- A positive rational is less than twice the power of two that it is measured by. -/
theorem lt_zpow_floorLog2
    (hq : 0 < q) :
    q < (2 : Rat) ^ (floorLog2 q + 1) := by
  unfold floorLog2
  simp only [twoPow_eq_zpow]
  split
  · have hden : (0 : Rat) < q.den := by exact_mod_cast q.den_pos
    have hnum : (q.num.natAbs : Rat) = q * q.den := natAbs_num hq.le
    have habove : (q.num.natAbs : Rat) < ((2 ^ (Nat.log2 q.num.natAbs + 1) : Nat) : Rat) := by
      exact_mod_cast Nat.lt_log2_self
    have hbelow : ((2 ^ Nat.log2 q.den : Nat) : Rat) ≤ q.den := by
      exact_mod_cast Nat.log2_self_le q.den_pos.ne'
    push_cast at hbelow habove
    refine lt_of_mul_lt_mul_right ?_ hden.le
    calc q * q.den
        = q.num.natAbs := hnum.symm
      _ < (2 : Rat) ^ (Nat.log2 q.num.natAbs + 1) := habove
      _ = (2 : Rat) ^ ((Nat.log2 q.num.natAbs : Int) - (Nat.log2 q.den : Int) + 1)
            * (2 : Rat) ^ Nat.log2 q.den := by
          rw [← zpow_natCast, ← zpow_natCast, ← zpow_add₀ two_ne_zero]
          congr 1
          push_cast
          ring
      _ ≤ (2 : Rat) ^ ((Nat.log2 q.num.natAbs : Int) - (Nat.log2 q.den : Int) + 1) * q.den :=
          mul_le_mul_of_nonneg_left hbelow (zpow_nonneg zero_le_two _)
  · next hlt =>
      rw [sub_add_cancel]
      exact not_le.mp hlt

theorem floorLog2_mono
    (hq : 0 < q)
    (hle : q ≤ r) :
    floorLog2 q ≤ floorLog2 r := by
  have hlt : (2 : Rat) ^ floorLog2 q < (2 : Rat) ^ (floorLog2 r + 1) :=
    ((zpow_floorLog2_le hq).trans hle).trans_lt (lt_zpow_floorLog2 (hq.trans_le hle))
  exact Int.lt_add_one_iff.mp ((zpow_lt_zpow_iff_right₀ one_lt_two).mp hlt)

/-- Where the greater rational has the greater unit, its power of two separates the two. -/
theorem nearest_le_of_finer
    (hprecision : 1 ≤ f.precision)
    (hq : 0 < q)
    (hle : q ≤ r)
    (hfiner : f.unitExponent q < f.unitExponent r) :
    f.nearest q ≤ f.nearest r := by
  have hr : 0 < r := hq.trans_le hle
  have hexponents : floorLog2 q < floorLog2 r ∧ f.leastExponent ≤ floorLog2 r := by
    unfold unitExponent at hfiner
    omega
  have hpower : f.OnGrid ((2 : Rat) ^ floorLog2 r) :=
    ⟨1, floorLog2 r, by simp, Nat.one_le_two_pow, hexponents.2⟩
  have hbelow : q ≤ (2 : Rat) ^ floorLog2 r :=
    (lt_zpow_floorLog2 hq).le.trans (zpow_le_zpow_right₀ one_le_two hexponents.1)
  calc f.nearest q
      ≤ (2 : Rat) ^ floorLog2 r := nearest_le hprecision hq.le hpower hbelow
    _ ≤ f.nearest r := le_nearest hprecision hr.le hpower (zpow_floorLog2_le hr)

/-- Rounding to a format keeps the order of rationals that are not negative. -/
theorem nearest_mono
    (hprecision : 1 ≤ f.precision)
    (hq : 0 ≤ q)
    (hle : q ≤ r) :
    f.nearest q ≤ f.nearest r := by
  rcases hq.eq_or_lt with rfl | hpos
  · rw [nearest_zero]
    exact nearest_nonneg hle
  · have hexponents : f.unitExponent q ≤ f.unitExponent r := by
      have hlog := floorLog2_mono hpos hle
      unfold unitExponent
      omega
    rcases hexponents.eq_or_lt with hsame | hfiner
    · have hunit : f.unit q = f.unit r := by
        rw [unit_eq_zpow hq, unit_eq_zpow (hq.trans hle), hsame]
      have hnonneg : 0 ≤ f.unit r := by
        rw [unit_eq_zpow (hq.trans hle)]
        exact zpow_nonneg zero_le_two _
      have hround : roundEven (q / f.unit r) ≤ roundEven (r / f.unit r) :=
        roundEven_mono (div_le_div_of_nonneg_right hle hnonneg)
      rw [nearest, nearest, hunit]
      exact mul_le_mul_of_nonneg_right (by exact_mod_cast hround) hnonneg
    · exact nearest_le_of_finer hprecision hpos hle hfiner

end BinaryFormat

namespace Floating

open BinaryFormat

/-- Two numbers that are not negative, the first at most the second; infinity is the greatest. -/
inductive AtMost : Floating → Floating → Prop
  | num
      {q r : Rat}
      (hq : 0 ≤ q)
      (hle : q ≤ r) :
      AtMost (.num q) (.num r)
  | overflow
      {q : Rat}
      (hq : 0 ≤ q) :
      AtMost (.num q) (.infinite false)
  | infinite :
      AtMost (.infinite false) (.infinite false)

variable {x x' y y' : Floating} {q r c : Rat}

theorem atMost_ofRat
    (hq : 0 ≤ q)
    (hle : q ≤ r) :
    AtMost (ofRat q) (ofRat r) := by
  have hmono : double.nearest q ≤ double.nearest r := nearest_mono (by decide) hq hle
  rw [ofRat, ofRat, round_of_nonneg hq, round_of_nonneg (hq.trans hle)]
  split_ifs with hover hover' hover'
  · exact AtMost.infinite
  · exact absurd (hover.trans hmono) hover'
  · exact AtMost.overflow (nearest_nonneg hq)
  · exact AtMost.num (nearest_nonneg hq) hmono

theorem ofRat_atMost_infinite
    (hq : 0 ≤ q) :
    AtMost (ofRat q) (.infinite false) := by
  rw [ofRat, round_of_nonneg hq]
  split
  · exact AtMost.infinite
  · exact AtMost.overflow (nearest_nonneg hq)

theorem atMost_ofNat
    {n k : Nat}
    (hle : n ≤ k) :
    AtMost (ofNat n) (ofNat k) :=
  atMost_ofRat (Nat.cast_nonneg n) (by exact_mod_cast hle)

section Operations

theorem ofRat_zero :
    ofRat 0 = .num 0 :=
  ofRat_of_holds holds_zero

theorem num_mul_num
    (hq : 0 ≤ q)
    (hc : 0 < c) :
    Floating.num q * .num c = ofRat (q * c) := by
  rw [mul_of_finite (a := q) (b := c) rfl rfl]
  split
  · next hzero =>
      simp [hzero, ofRat_zero, isNegative, not_lt.mpr hq, not_lt.mpr hc.le, zero]
  · rfl

theorem num_div_num
    (hq : 0 ≤ q)
    (hc : 0 < c) :
    Floating.num q / .num c = ofRat (q / c) := by
  change div (.num q) (.num c) = _
  by_cases hzero : q = 0
  · subst hzero
    simp [div, value?, hc.ne', ofRat_zero, isNegative, not_lt.mpr hc.le, zero]
  · simp [div, value?, hc.ne', hzero]

theorem infinite_div_num
    (hc : 0 < c) :
    Floating.infinite false / .num c = .infinite false := by
  change div (.infinite false) (.num c) = .infinite false
  simp [div, isNegative, not_lt.mpr hc.le]

theorem AtMost.add
    (hx : AtMost x x')
    (hy : AtMost y y') :
    AtMost (x + y) (x' + y') := by
  cases hx with
  | num hq hle =>
      cases hy with
      | num hr hle' =>
          exact atMost_ofRat (add_nonneg hq hr) (add_le_add hle hle')
      | overflow hr =>
          exact ofRat_atMost_infinite (add_nonneg hq hr)
      | infinite =>
          exact AtMost.infinite
  | overflow hq =>
      cases hy with
      | num hr _ =>
          exact ofRat_atMost_infinite (add_nonneg hq hr)
      | overflow hr =>
          exact ofRat_atMost_infinite (add_nonneg hq hr)
      | infinite =>
          exact AtMost.infinite
  | infinite =>
      cases hy <;> exact AtMost.infinite

theorem AtMost.mul_num
    (hx : AtMost x y)
    (hc : 0 < c) :
    AtMost (x * .num c) (y * .num c) := by
  cases hx with
  | num hq hle =>
      rw [num_mul_num hq hc, num_mul_num (hq.trans hle) hc]
      exact atMost_ofRat (mul_nonneg hq hc.le) (mul_le_mul_of_nonneg_right hle hc.le)
  | overflow hq =>
      rw [num_mul_num hq hc, infinite_mul_num hc]
      exact ofRat_atMost_infinite (mul_nonneg hq hc.le)
  | infinite =>
      rw [infinite_mul_num hc]
      exact AtMost.infinite

theorem AtMost.div_num
    (hx : AtMost x y)
    (hc : 0 < c) :
    AtMost (x / .num c) (y / .num c) := by
  cases hx with
  | num hq hle =>
      rw [num_div_num hq hc, num_div_num (hq.trans hle) hc]
      exact atMost_ofRat (div_nonneg hq hc.le) (div_le_div_of_nonneg_right hle hc.le)
  | overflow hq =>
      rw [num_div_num hq hc, infinite_div_num hc]
      exact ofRat_atMost_infinite (div_nonneg hq hc.le)
  | infinite =>
      rw [infinite_div_num hc]
      exact AtMost.infinite

theorem AtMost.maximum_num
    (hx : AtMost x y)
    (c : Rat) :
    AtMost (x.maximum (.num c)) (y.maximum (.num c)) := by
  cases hx with
  | num hq hle =>
      rw [num_maximum_num, num_maximum_num]
      exact AtMost.num (hq.trans (le_max_left _ c)) (max_le_max_right c hle)
  | overflow hq =>
      rw [num_maximum_num]
      exact AtMost.overflow (hq.trans (le_max_left _ c))
  | infinite =>
      exact AtMost.infinite

end Operations

section Tenths

theorem roundInteger_num
    (hq : 0 ≤ q) :
    (Floating.num q).roundInteger = .num (roundAway q : Rat) := by
  simp only [roundInteger]
  split
  · next hzero => simp [hzero, not_lt.mpr hq, zero]
  · rfl

theorem AtMost.roundInteger
    (hx : AtMost x y) :
    AtMost x.roundInteger y.roundInteger := by
  have hnonneg : ∀ {q : Rat}, 0 ≤ q → (0 : Rat) ≤ roundAway q := by
    intro q hq
    exact_mod_cast le_roundAway (n := 0) (by exact_mod_cast hq)
  cases hx with
  | num hq hle =>
      rw [roundInteger_num hq, roundInteger_num (hq.trans hle)]
      exact AtMost.num (hnonneg hq) (by exact_mod_cast roundAway_mono hle)
  | overflow hq =>
      rw [roundInteger_num hq]
      exact AtMost.overflow (hnonneg hq)
  | infinite =>
      exact AtMost.infinite

theorem AtMost.roundTenth
    (hx : AtMost x y) :
    AtMost x.roundTenth y.roundTenth := by
  have hten : (0 : Rat) < 10 := by norm_num
  rw [Floating.roundTenth, Floating.roundTenth, ten_eq_num]
  exact (hx.mul_num hten).roundInteger.div_num hten

end Tenths

section Comparison

theorem atLeast_iff
    {a b : Rat}
    (hx : x.value? = some a)
    (hy : y.value? = some b) :
    x.atLeast y = true ↔ b ≤ a := by
  have hless : x.atLeast y = !less x y := by
    cases x <;> cases y <;> simp_all [value?, Floating.atLeast]
  rw [hless, less_eq_decide hx hy, Bool.not_eq_true', decide_eq_false_iff_not, not_lt]

theorem NotBelow.atLeast
    (hx : NotBelow c x) :
    x.atLeast (.num c) = true := by
  rcases hx with rfl | ⟨q, hvalue, hle⟩
  · rfl
  · rw [atLeast_iff hvalue (b := c) rfl]
    exact hle

theorem AtMost.atLeast
    (hx : AtMost x y) :
    y.atLeast x = true := by
  cases hx with
  | num _ hle =>
      rw [atLeast_iff rfl rfl]
      exact hle
  | overflow _ =>
      rfl
  | infinite =>
      rfl

end Comparison

end Floating
end CodeAudit
