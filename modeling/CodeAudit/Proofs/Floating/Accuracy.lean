import CodeAudit.Proofs.Floating.Monotone
import Mathlib.Algebra.Order.Group.MinMax

/-!
# How far rounding goes

Rounding moves a rational by at most half of its unit.  A sum that is carried along is rounded at every
step, so what it comes to depends on the order of its terms, but it stays near the exact sum.  If no
term is less than some least one, then the number of steps is bounded by the exact sum, and so the error
grows no faster than the sum.

Sums are followed up to a bound only.  From there on it is enough to know that the carried sum does not
fall back far below the bound; it can then grow without limit, and its error with it.

A number that is near a multiple of a tenth is rounded to this multiple, so the error is gone in the
end.

**Results.**
* `BinaryFormat.abs_nearest_sub_le`: half a unit.
* `Near.add`: the error of one addition.
* `Tolerance.Follows.add`, `Tolerance.Follows.foldl`: one step of a carried sum, and all of it.
* `Tolerance.Follows.near_minimum`, `Tolerance.Follows.abs_left_sub_le`: a sum that is cut at the bound,
  and what it leaves of the bound.
* `clamp_sub`: what a number leaves of an upper bound.
* `roundTenth_of_close`: rounding to tenths.
-/

namespace CodeAudit

section Integers

variable {q : Rat}

theorem abs_roundEven_sub_le
    (q : Rat) :
    |(roundEven q : Rat) - q| ≤ 1 / 2 := by
  have hbelow : (q.floor : Rat) ≤ q := Rat.floor_le q
  have habove : q < q.floor + 1 := by exact_mod_cast Rat.lt_floor_add_one q
  rw [abs_le]
  unfold roundEven
  simp only
  split_ifs <;> push_cast <;> constructor <;> linarith

/-- An integer that is less than a half away is the nearest one. -/
theorem roundAway_eq_of_close
    {n : Int}
    (hclose : |q - n| < 1 / 2) :
    roundAway q = n := by
  rw [abs_lt] at hclose
  unfold roundAway
  split
  · have hfloor : (-q + 1 / 2).floor = -n := by
      change ⌊-q + 1 / 2⌋ = -n
      rw [Int.floor_eq_iff]
      push_cast
      constructor <;> linarith
    omega
  · change ⌊q + 1 / 2⌋ = n
    rw [Int.floor_eq_iff]
    constructor <;> linarith

end Integers

namespace BinaryFormat

variable {f : BinaryFormat} {q : Rat}

/-- Rounding moves a rational below a power of two by at most half of the unit that is used there. -/
theorem abs_nearest_sub_le
    {k : Int}
    (hq : 0 ≤ q)
    (hlt : q < (2 : Rat) ^ k)
    (hleast : f.leastExponent ≤ k - f.precision) :
    |f.nearest q - q| ≤ (2 : Rat) ^ (k - f.precision) / 2 := by
  have hnonneg : (0 : Rat) ≤ (2 : Rat) ^ (k - f.precision) := zpow_nonneg zero_le_two _
  rcases hq.eq_or_lt with rfl | hpos
  · rw [nearest_zero, sub_zero, abs_zero]
    positivity
  · have hunit : (0 : Rat) < f.unit q := by
      rw [unit_eq_zpow hq]
      exact zpow_pos two_pos _
    have hlog : floorLog2 q < k :=
      (zpow_lt_zpow_iff_right₀ one_lt_two).mp ((zpow_floorLog2_le hpos).trans_lt hlt)
    have hexponent : f.unitExponent q ≤ k - f.precision := by
      unfold unitExponent
      omega
    calc |f.nearest q - q|
        = |(roundEven (q / f.unit q) : Rat) - q / f.unit q| * f.unit q := by
          rw [← abs_of_pos hunit, ← abs_mul, abs_of_pos hunit, sub_mul,
            div_mul_cancel₀ q hunit.ne', nearest]
      _ ≤ 1 / 2 * f.unit q :=
          mul_le_mul_of_nonneg_right (abs_roundEven_sub_le _) hunit.le
      _ = (2 : Rat) ^ f.unitExponent q / 2 := by
          rw [unit_eq_zpow hq]
          ring
      _ ≤ (2 : Rat) ^ (k - f.precision) / 2 :=
          div_le_div_of_nonneg_right (zpow_le_zpow_right₀ one_le_two hexponent) zero_le_two

/-- An integer of few digits over a power of two is a number of the 64-bit format. -/
theorem holds_natCast_div_pow
    {n k : Nat}
    (hn : n ≤ 2 ^ 53)
    (hk : k ≤ 1074) :
    double.Holds (n / 2 ^ k) := by
  refine ⟨?_, n, -k, by rw [zpow_neg, zpow_natCast, div_eq_mul_inv], hn, ?_⟩
  · have hpow : (1 : Rat) ≤ 2 ^ k := one_le_pow₀ one_le_two
    exact (div_le_self (Nat.cast_nonneg n) hpow).trans_lt (holds_natCast hn).1
  · change (-1074 : Int) ≤ -k
    omega

/-- All numbers of the format are multiples of the least one. -/
theorem exists_nearest_eq
    (hq : 0 ≤ q) :
    ∃ n : Nat, f.nearest q = n * (2 : Rat) ^ f.leastExponent := by
  have hround : 0 ≤ roundEven (q / f.unit q) := by
    apply le_roundEven
    rw [Int.cast_zero, unit_eq_zpow hq]
    exact div_nonneg hq (zpow_nonneg zero_le_two _)
  obtain ⟨significand, hsignificand⟩ := Int.eq_ofNat_of_zero_le hround
  obtain ⟨d, hd⟩ := Int.eq_ofNat_of_zero_le
    (sub_nonneg.mpr (le_max_right (floorLog2 q - (f.precision - 1)) f.leastExponent))
  have hexponent : f.unitExponent q = (d : Int) + f.leastExponent := by
    unfold unitExponent
    omega
  refine ⟨significand * 2 ^ d, ?_⟩
  rw [nearest, hsignificand, unit_eq_zpow hq, hexponent, zpow_add₀ two_ne_zero, zpow_natCast]
  push_cast
  ring

end BinaryFormat

namespace Floating

open BinaryFormat

variable {x y : Floating} {a q r ε δ : Rat}

/-! ## Near a rational -/

/-- How far a rational below 128 is moved at most. -/
def grain : Rat := 1 / 2 ^ 47

/-- A finite number that is not negative, no farther from a rational than an error. -/
def Near
    (ε q : Rat)
    (x : Floating) : Prop :=
  ∃ r, x.value? = some r ∧ 0 ≤ r ∧ |r - q| ≤ ε

section Near

theorem grain_pos :
    0 < grain := by
  norm_num [grain]

theorem exists_ofRat_eq_num
    (hq : 0 ≤ q)
    (hlt : q < 128) :
    ∃ r, ofRat q = .num r ∧ 0 ≤ r ∧ |r - q| ≤ grain := by
  have herror : |double.nearest q - q| ≤ (2 : Rat) ^ ((7 : Int) - 53) / 2 :=
    abs_nearest_sub_le (f := double) hq (by norm_num; exact hlt) (by decide)
  have hgrain : (2 : Rat) ^ ((7 : Int) - 53) / 2 = grain := by
    norm_num [grain]
  have hbelow : double.nearest q < (2 : Rat) ^ double.overflowExponent := by
    calc double.nearest q
        ≤ q + grain := by linarith [(abs_le.mp herror).2]
      _ < (2 : Rat) ^ (8 : Int) := by
          norm_num [grain]
          linarith
      _ ≤ (2 : Rat) ^ double.overflowExponent := zpow_le_zpow_right₀ one_le_two (by decide)
  refine ⟨double.nearest q, ?_, nearest_nonneg hq, hgrain ▸ herror⟩
  rw [ofRat, round_of_nonneg hq, if_neg (not_le.mpr hbelow)]

theorem Rounds.near
    (hx : Rounds q x)
    (hq : 0 ≤ q)
    (hlt : q < 128) :
    Near grain q x := by
  rcases hx with rfl | hvalue
  · obtain ⟨r, hr, hnonneg, hclose⟩ := exists_ofRat_eq_num hq hlt
    exact ⟨r, by rw [hr, value?], hnonneg, hclose⟩
  · exact ⟨q, hvalue, hq, by rw [sub_self, abs_zero]; exact grain_pos.le⟩

theorem Near.mono
    (hx : Near δ q x)
    (hle : δ ≤ ε) :
    Near ε q x := by
  obtain ⟨r, hvalue, hnonneg, herror⟩ := hx
  exact ⟨r, hvalue, hnonneg, herror.trans hle⟩

/-- A sum has the errors of its terms and that of its own rounding. -/
theorem Near.add
    (hx : Near ε q x)
    (hy : Near δ a y)
    (hlt : q + a + (ε + δ) < 128) :
    Near (ε + δ + grain) (q + a) (x + y) := by
  obtain ⟨r, hr, hrNonneg, hrError⟩ := hx
  obtain ⟨s, hs, hsNonneg, hsError⟩ := hy
  rw [abs_le] at hrError hsError
  obtain ⟨t, ht, htNonneg, htError⟩ :=
    (rounds_add hr hs).near (add_nonneg hrNonneg hsNonneg) (by linarith)
  rw [abs_le] at htError
  refine ⟨t, ht, htNonneg, abs_le.mpr ⟨?_, ?_⟩⟩ <;> linarith

end Near

/-! ## A sum that is carried along -/

/-- How a carried sum is followed, and that its error does not get out of hand. -/
structure Tolerance where
  /-- The exact sum up to which the carried one is followed. -/
  bound : Rat
  /-- What a term is at least, and what it is at most. -/
  least : Rat
  most : Rat
  /-- How far the number for a term may be from it. -/
  error : Rat
  /-- How much the error may grow when the sum grows by one. -/
  slope : Rat
  /-- Below this a carried sum does not fall when the exact one has reached the bound. -/
  floor : Rat
  bound_pos : 0 < bound
  least_pos : 0 < least
  least_le : least ≤ most
  error_nonneg : 0 ≤ error
  slope_ge : error + grain ≤ slope * least
  bound_lt : (1 + slope) * (bound + most) < 128
  floor_le : floor ≤ bound - slope * (bound + most)
  holds : double.Holds floor

namespace Tolerance

variable {t : Tolerance}

/-- A term of a sum: exactly within its limits, and the number for it is near it. -/
structure Term
    (t : Tolerance)
    (a : Rat)
    (y : Floating) : Prop where
  near : Near t.error a y
  least : t.least ≤ a
  most : a ≤ t.most

/-- A carried sum is near the exact one up to the bound, and does not fall back from there on. -/
structure Follows
    (t : Tolerance)
    (q : Rat)
    (x : Floating) : Prop where
  nonneg : 0 ≤ q
  near : q < t.bound → Near (t.slope * q) q x
  high : t.bound ≤ q → NotBelow t.floor x

theorem slope_nonneg
    (t : Tolerance) :
    0 ≤ t.slope := by
  have hproduct : 0 ≤ t.slope * t.least := by
    linarith [t.slope_ge, t.error_nonneg, grain_pos]
  exact nonneg_of_mul_nonneg_left hproduct t.least_pos

/-- One more term. -/
theorem Follows.add
    (hx : t.Follows q x)
    (hy : t.Term a y) :
    t.Follows (q + a) (x + y) := by
  have hslope := t.slope_nonneg
  have hsumNonneg : 0 ≤ q + a := by
    linarith [hx.nonneg, t.least_pos, hy.least]
  by_cases hbound : q < t.bound
  · -- The new term lets the error grow by more than the sum is off at this step.
    have hsum : q + a ≤ t.bound + t.most := add_le_add hbound.le hy.most
    have hgrown : t.slope * q + t.error + grain ≤ t.slope * (q + a) := by
      have hstep : t.slope * t.least ≤ t.slope * a := mul_le_mul_of_nonneg_left hy.least hslope
      rw [mul_add]
      linarith [t.slope_ge]
    have herror : t.slope * (q + a) ≤ t.slope * (t.bound + t.most) :=
      mul_le_mul_of_nonneg_left hsum hslope
    have hlt : q + a + (t.slope * q + t.error) < 128 := by
      linarith [t.bound_lt, grain_pos]
    have hnear : Near (t.slope * (q + a)) (q + a) (x + y) :=
      ((hx.near hbound).add hy.near hlt).mono hgrown
    refine ⟨hsumNonneg, fun _ => hnear, fun hreached => ?_⟩
    obtain ⟨r, hvalue, -, hclose⟩ := hnear
    exact Or.inr ⟨r, hvalue, by linarith [(abs_le.mp hclose).1, t.floor_le]⟩
  · have hreached : t.bound ≤ q := not_lt.mp hbound
    have habove : t.bound ≤ q + a := by
      linarith [t.least_pos, hy.least]
    refine ⟨hsumNonneg, fun hlt => absurd habove (not_le.mpr hlt), fun _ => ?_⟩
    obtain ⟨s, hs, hsNonneg, -⟩ := hy.near
    have hsum := (hx.high hreached).add (Or.inr ⟨s, hs, hsNonneg⟩) (by
      rw [add_zero]
      exact t.holds)
    rwa [add_zero] at hsum

/-- All terms of a list. -/
theorem Follows.foldl
    {β : Type}
    {items : List β}
    {exact : β → Rat}
    {rounded : β → Floating}
    (hx : t.Follows q x)
    (hitems : ∀ item ∈ items, t.Term (exact item) (rounded item)) :
    t.Follows (q + (items.map exact).sum)
      (items.foldl (fun sum item => sum + rounded item) x) := by
  induction items generalizing q x with
  | nil =>
      rwa [List.map_nil, List.sum_nil, add_zero]
  | cons item rest ih =>
      rw [List.forall_mem_cons] at hitems
      rw [List.map_cons, List.sum_cons, ← add_assoc]
      exact ih (hx.add hitems.1) hitems.2

/-- A sum begins at zero, whatever the sign of the zero. -/
theorem follows_zero
    (t : Tolerance)
    (hx : x.value? = some 0) :
    t.Follows 0 x where
  nonneg := le_rfl
  near _ := ⟨0, hx, le_rfl, by simp⟩
  high hreached := absurd t.bound_pos (not_lt.mpr hreached)

/-- Below the bound a sum is as near as it is to the bound when it has reached it. -/
theorem slope_mul_le
    (t : Tolerance)
    (hq : q < t.bound) :
    t.slope * q ≤ t.bound - t.floor := by
  have hsum : q ≤ t.bound + t.most := by
    linarith [t.least_pos, t.least_le]
  have hmono : t.slope * q ≤ t.slope * (t.bound + t.most) :=
    mul_le_mul_of_nonneg_left hsum t.slope_nonneg
  linarith [t.floor_le]

theorem floor_le_bound
    (t : Tolerance) :
    t.floor ≤ t.bound := by
  have hzero := t.slope_mul_le t.bound_pos
  rw [mul_zero] at hzero
  linarith

/-- A carried sum that is cut at the bound is near the exact sum that is cut there. -/
theorem Follows.near_minimum
    (hx : t.Follows q x) :
    Near (t.bound - t.floor) (min t.bound q) (x.minimum (.num t.bound)) := by
  by_cases hbound : q < t.bound
  · obtain ⟨r, hvalue, hnonneg, hclose⟩ := hx.near hbound
    have herror := t.slope_mul_le hbound
    rw [min_eq_right hbound.le, minimum_of_finite hvalue (b := t.bound) rfl]
    rw [abs_le] at hclose
    split
    · exact ⟨t.bound, rfl, t.bound_pos.le, abs_le.mpr ⟨by linarith, by linarith⟩⟩
    · exact ⟨r, hvalue, hnonneg, abs_le.mpr ⟨by linarith, by linarith⟩⟩
  · have hreached : t.bound ≤ q := not_lt.mp hbound
    have hfloor : 0 ≤ t.floor := t.holds.2.nonneg
    obtain ⟨r, hvalue, hlow, hhigh⟩ := within_minimum (Or.inr (hx.high hreached)) t.floor_le_bound
    rw [min_eq_left hreached]
    exact ⟨r, hvalue, hfloor.trans hlow, abs_le.mpr ⟨by linarith, by linarith⟩⟩

/-- What a carried sum leaves of the bound is near what the exact sum leaves of it. -/
theorem Follows.abs_left_sub_le
    (hx : t.Follows q x)
    (hr : x.value? = some r) :
    |max 0 (t.bound - r) - max 0 (t.bound - q)| ≤ t.bound - t.floor := by
  by_cases hbound : q < t.bound
  · obtain ⟨r', hvalue, -, hclose⟩ := hx.near hbound
    obtain rfl := Option.some.inj (hr.symm.trans hvalue)
    calc |max 0 (t.bound - r) - max 0 (t.bound - q)|
        ≤ |(t.bound - r) - (t.bound - q)| := by
          rw [max_comm 0, max_comm 0]
          exact abs_max_sub_max_le_abs _ _ _
      _ = |r - q| := by
          rw [sub_sub_sub_cancel_left, abs_sub_comm]
      _ ≤ t.bound - t.floor := hclose.trans (t.slope_mul_le hbound)
  · have hreached : t.bound ≤ q := not_lt.mp hbound
    have hfloor : t.floor ≤ r := by
      rcases hx.high hreached with rfl | ⟨r', hvalue, hlow⟩
      · cases hr
      · obtain rfl := Option.some.inj (hr.symm.trans hvalue)
        exact hlow
    have hnone : max 0 (t.bound - q) = 0 := max_eq_left (by linarith)
    rw [hnone, sub_zero, abs_of_nonneg (le_max_left _ _)]
    exact max_le (by linarith [t.floor_le_bound]) (by linarith)

/-- A carried sum is a number; it is infinite only where the exact sum has reached the bound. -/
theorem Follows.infinite_of_value?
    (hx : t.Follows q x)
    (hnone : x.value? = none) :
    x = .infinite false ∧ t.bound ≤ q := by
  by_cases hbound : q < t.bound
  · obtain ⟨r, hvalue, -⟩ := hx.near hbound
    rw [hnone] at hvalue
    cases hvalue
  · have hreached : t.bound ≤ q := not_lt.mp hbound
    rcases hx.high hreached with hinfinite | ⟨r, hvalue, -⟩
    · exact ⟨hinfinite, hreached⟩
    · rw [hnone] at hvalue
      cases hvalue

end Tolerance

/-! ## Multiples of the least number -/

/-- If finite, then a multiple of the least number of the format, and not negative. -/
def IsMultiple
    (x : Floating) : Prop :=
  ∀ r, x.value? = some r → ∃ n : Nat, r = n * (2 : Rat) ^ double.leastExponent

section IsMultiple

theorem IsMultiple.nonneg
    (hx : IsMultiple x)
    (hr : x.value? = some r) :
    0 ≤ r := by
  obtain ⟨n, rfl⟩ := hx r hr
  exact mul_nonneg (Nat.cast_nonneg n) (zpow_nonneg zero_le_two _)

theorem isMultiple_ofRat
    (hq : 0 ≤ q) :
    IsMultiple (ofRat q) := by
  intro r hr
  rw [ofRat, round_of_nonneg hq] at hr
  split at hr
  · cases hr
  · obtain rfl := Option.some.inj hr
    exact exists_nearest_eq hq

theorem isMultiple_of_value?_zero
    (hx : x.value? = some 0) :
    IsMultiple x := by
  intro r hr
  obtain rfl := Option.some.inj (hx.symm.trans hr)
  exact ⟨0, by simp⟩

/-- Only finite numbers have a finite sum. -/
theorem finite_of_add
    (hsum : (x + y).value? = some r) :
    (∃ a, x.value? = some a) ∧ ∃ b, y.value? = some b := by
  change (Floating.add x y).value? = some r at hsum
  cases x with
  | nan =>
      cases hsum
  | infinite negative =>
      cases y with
      | infinite negative' =>
          rw [Floating.add] at hsum
          split at hsum <;> cases hsum
      | nan | negativeZero | num b =>
          cases hsum
  | negativeZero | num a =>
      cases y with
      | nan | infinite negative =>
          cases hsum
      | negativeZero | num b =>
          exact ⟨⟨_, rfl⟩, _, rfl⟩

theorem IsMultiple.add
    (hx : IsMultiple x)
    (hy : IsMultiple y) :
    IsMultiple (x + y) := by
  intro t ht
  obtain ⟨⟨r, hr⟩, s, hs⟩ := finite_of_add ht
  rcases rounds_add hr hs with hsum | hsum
  · rw [hsum] at ht
    exact isMultiple_ofRat (add_nonneg (hx.nonneg hr) (hy.nonneg hs)) t ht
  · obtain rfl := Option.some.inj (hsum.symm.trans ht)
    obtain ⟨n, rfl⟩ := hx r hr
    obtain ⟨k, rfl⟩ := hy s hs
    exact ⟨n + k, by push_cast; ring⟩

theorem IsMultiple.minimum
    (hx : IsMultiple x)
    (hy : IsMultiple y) :
    IsMultiple (x.minimum y) := by
  have hcases : x.minimum y = x ∨ x.minimum y = y := by
    unfold Floating.minimum
    split
    · exact Or.inr rfl
    · exact Or.inl rfl
    · split
      · exact Or.inr rfl
      · exact Or.inl rfl
  rcases hcases with heq | heq <;> rwa [heq]

theorem IsMultiple.foldl
    {β : Type}
    {items : List β}
    {rounded : β → Floating}
    (hx : IsMultiple x)
    (hitems : ∀ item ∈ items, IsMultiple (rounded item)) :
    IsMultiple (items.foldl (fun sum item => sum + rounded item) x) := by
  induction items generalizing x with
  | nil =>
      exact hx
  | cons item rest ih =>
      rw [List.forall_mem_cons] at hitems
      exact ih (hx.add hitems.1) hitems.2

end IsMultiple

/-! ## What is left of an upper bound -/

section Left

variable {high : Rat}

theorem num_sub_of_finite
    (hhigh : double.Holds high)
    (hx : x.value? = some r) :
    Floating.num high - x = ofRat (high - r) := by
  change Floating.add (.num high) (Floating.neg x) = _
  cases x with
  | nan | infinite negative =>
      cases hx
  | negativeZero =>
      obtain rfl := Option.some.inj hx
      change ofRat (high + 0) = _
      rw [add_zero, sub_zero]
  | num value =>
      obtain rfl := Option.some.inj hx
      by_cases hzero : value = 0
      · subst hzero
        rw [sub_zero, ofRat_of_holds hhigh]
        rfl
      · rw [Floating.neg, if_neg hzero, sub_eq_add_neg]
        rfl

/-- A rational that is below zero by at least the least number is not rounded to zero. -/
theorem less_ofRat_zero
    (hle : (2 : Rat) ^ double.leastExponent ≤ -q) :
    less (ofRat q) (.num 0) = true := by
  have hleast : (0 : Rat) < (2 : Rat) ^ double.leastExponent := zpow_pos two_pos _
  have hneg : q < 0 := by linarith
  have hpos : 0 < -q := by linarith
  have hunit : double.unit q = (2 : Rat) ^ double.unitExponent (-q) := by
    rw [unit, twoPow_eq_zpow, unitExponent, Rat.abs_of_nonpos hneg.le]
  have hunitPos : 0 < double.unit q := by
    rw [hunit]
    exact zpow_pos two_pos _
  have hunitLe : double.unit q ≤ -q := by
    rw [hunit, unitExponent]
    rcases max_choice (floorLog2 (-q) - (double.precision - 1)) double.leastExponent with
      hmax | hmax
    · rw [hmax]
      refine le_trans (zpow_le_zpow_right₀ one_le_two ?_) (zpow_floorLog2_le hpos)
      have hprecision : double.precision = 53 := rfl
      omega
    · rwa [hmax]
  have hround : roundEven (q / double.unit q) ≤ -1 := by
    apply roundEven_le
    rw [div_le_iff₀ hunitPos]
    push_cast
    linarith
  have hvalue : (roundEven (q / double.unit q) : Rat) * double.unit q < 0 := by
    have hcast : (roundEven (q / double.unit q) : Rat) ≤ -1 := by exact_mod_cast hround
    exact mul_neg_of_neg_of_pos (by linarith) hunitPos
  unfold ofRat BinaryFormat.round
  simp only [if_neg hvalue.ne]
  split
  · simp [less, hneg]
  · exact decide_eq_true hvalue

/-- What a number leaves of an upper bound, nothing if it is greater. -/
theorem clamp_sub
    {n : Nat}
    (hn : n < 128)
    (hx : IsMultiple x)
    (hr : x.value? = some r) :
    ∃ e, clamp (.num 0) (.num n) (.num n - x) = .num e ∧ 0 ≤ e ∧
      |e - max 0 (n - r)| ≤ grain := by
  have hnonneg := hx.nonneg hr
  have hholds : double.Holds n := holds_natCast (by omega)
  have hnLt : (n : Rat) < 128 := by exact_mod_cast hn
  rw [num_sub_of_finite hholds hr]
  by_cases hle : r ≤ n
  · have hleft : 0 ≤ (n : Rat) - r := sub_nonneg.mpr hle
    obtain ⟨e, he, hlow, hclose⟩ := exists_ofRat_eq_num hleft (by linarith)
    have hhigh : e ≤ n := by
      obtain ⟨e', he', -, hhigh⟩ :=
        Rounds.within (Or.inl rfl) holds_zero hholds hleft (show (n : Rat) - r ≤ n by linarith)
      rw [he] at he'
      exact Option.some.inj he' ▸ hhigh
    refine ⟨e, ?_, hlow, by rwa [max_eq_right hleft]⟩
    have hnotBelow : less (.num e) (.num 0) = false := decide_eq_false (not_lt.mpr hlow)
    have hnotAbove : less (.num n) (.num e) = false := decide_eq_false (not_lt.mpr hhigh)
    rw [he, clamp, hnotBelow, hnotAbove]
    rfl
  · -- The difference is negative and a multiple of the least number, so it is not rounded to zero.
    have hlt : (n : Rat) < r := not_le.mp hle
    have hleast : (2 : Rat) ^ double.leastExponent ≤ -((n : Rat) - r) := by
      obtain ⟨k, rfl⟩ := hx r hr
      obtain ⟨m, hm⟩ := exists_multiple n (show double.leastExponent ≤ 0 by decide)
      rw [zpow_zero, mul_one] at hm
      rw [hm] at hlt ⊢
      have hpos : (0 : Rat) < (2 : Rat) ^ double.leastExponent := zpow_pos two_pos _
      have hlt' : (m : Rat) < (k : Nat) := lt_of_mul_lt_mul_right hlt hpos.le
      have hstep : (1 : Rat) ≤ (k : Nat) - (m : Rat) := by
        have hint : m + 1 ≤ (k : Int) := by exact_mod_cast hlt'
        have hcast : (m : Rat) + 1 ≤ (k : Nat) := by exact_mod_cast hint
        linarith
      calc (2 : Rat) ^ double.leastExponent
          = 1 * (2 : Rat) ^ double.leastExponent := (one_mul _).symm
        _ ≤ ((k : Nat) - (m : Rat)) * (2 : Rat) ^ double.leastExponent :=
            mul_le_mul_of_nonneg_right hstep hpos.le
        _ = -(m * (2 : Rat) ^ double.leastExponent - k * (2 : Rat) ^ double.leastExponent) := by
            ring
    refine ⟨0, ?_, le_rfl, ?_⟩
    · rw [clamp, less_ofRat_zero hleast]
      rfl
    · rw [max_eq_left (by linarith), sub_zero, abs_zero]
      exact grain_pos.le

theorem clamp_sub_infinite
    (n : Nat) :
    clamp (.num 0) (.num n) (.num n - .infinite false) = .num 0 := by
  rfl

end Left

section Tenths

/-- A number that is near a multiple of a tenth is rounded to it. -/
theorem roundTenth_of_close
    {n : Nat}
    (hq : 0 ≤ q)
    (hn : n ≤ 100)
    (hclose : |q - n / 10| ≤ 1 / 100) :
    (Floating.num q).roundTenth = ofRat (n / 10) := by
  have hten : (0 : Rat) < 10 := by norm_num
  have hnLe : (n : Rat) ≤ 100 := by exact_mod_cast hn
  rw [abs_le] at hclose
  have hscaled : 0 ≤ q * 10 := mul_nonneg hq hten.le
  obtain ⟨z, hz, hzNonneg, hzClose⟩ := exists_ofRat_eq_num hscaled (by linarith)
  have hround : roundAway z = (n : Int) := by
    apply roundAway_eq_of_close
    have hgrain : grain ≤ 1 / 100 := by norm_num [grain]
    rw [abs_le] at hzClose
    rw [abs_lt]
    push_cast
    constructor <;> linarith
  rw [roundTenth, ten_eq_num, num_mul_num hq hten, hz, roundInteger_num hzNonneg, hround,
    num_div_num (by positivity) hten, Int.cast_natCast]

end Tenths

end Floating
end CodeAudit
