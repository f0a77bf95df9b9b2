import CodeAudit.Floating.Basic
import Mathlib.Data.Rat.Floor
import Mathlib.Tactic.Linarith
import Mathlib.Tactic.Ring

/-!
# Rounding keeps bounds

A number of a format is a multiple of a power of two with few digits.  Rounding moves a rational to
the nearest such number, so it never moves it across one: what is at most a number of the format is
still at most that number after rounding, and the same from below.  This is all that bounds on
rounded results need.  It holds whatever the unit of the rational is, because a number of the format
is a multiple of the unit unless it lies below the power of two that the unit comes from.

**Results.**
* `roundEven_le`, `le_roundEven`, `roundAway_le`, `le_roundAway`: rounding to integers.
* `BinaryFormat.nearest_le`, `BinaryFormat.le_nearest`: rounding to a format.
-/

namespace CodeAudit

theorem twoPow_eq_zpow
    (e : Int) :
    twoPow e = (2 : Rat) ^ e := by
  unfold twoPow
  split
  · next hnonneg =>
      obtain ⟨n, rfl⟩ := Int.eq_ofNat_of_zero_le hnonneg
      simp [zpow_natCast]
  · next hneg =>
      obtain ⟨n, hn⟩ := Int.eq_ofNat_of_zero_le (show 0 ≤ -e by omega)
      obtain rfl : e = -(n : Int) := by omega
      simp [zpow_neg, zpow_natCast]

section Integers

variable {q : Rat} {n : Int}

/-- The nearest integer is the one below or the next one, and an integer is its own. -/
theorem roundEven_cases
    (q : Rat) :
    roundEven q = q.floor ∨ q.floor < q ∧ roundEven q = q.floor + 1 := by
  unfold roundEven
  have hbelow : (q.floor : Rat) ≤ q := Rat.floor_le q
  simp only
  split
  · exact Or.inl rfl
  · next hrest =>
      have habove : (q.floor : Rat) < q := by linarith
      split
      · exact Or.inr ⟨habove, rfl⟩
      · split
        · exact Or.inl rfl
        · exact Or.inr ⟨habove, rfl⟩

theorem roundEven_le
    (hle : q ≤ n) :
    roundEven q ≤ n := by
  have hbelow : (q.floor : Rat) ≤ q := Rat.floor_le q
  rcases roundEven_cases q with heq | ⟨hlt, heq⟩
  · rw [heq]
    exact_mod_cast hbelow.trans hle
  · rw [heq]
    have hfloor : (q.floor : Rat) < n := hlt.trans_le hle
    exact_mod_cast hfloor

theorem le_roundEven
    (hle : (n : Rat) ≤ q) :
    n ≤ roundEven q := by
  have hfloor : n ≤ q.floor := Rat.le_floor_iff.mpr hle
  rcases roundEven_cases q with heq | ⟨-, heq⟩ <;> omega

theorem roundEven_intCast
    (n : Int) :
    roundEven n = n :=
  le_antisymm (roundEven_le le_rfl) (le_roundEven le_rfl)

theorem roundAway_le
    (hle : q ≤ n) :
    roundAway q ≤ n := by
  unfold roundAway
  split
  · have hfloor : -n ≤ (-q + 1 / 2).floor := by
      rw [Rat.le_floor_iff]
      push_cast
      linarith
    omega
  · have hfloor : ((q + 1 / 2).floor : Rat) ≤ q + 1 / 2 := Rat.floor_le _
    have hlt : ((q + 1 / 2).floor : Rat) < n + 1 := by linarith
    have : (q + 1 / 2).floor < n + 1 := by exact_mod_cast hlt
    omega

theorem le_roundAway
    (hle : (n : Rat) ≤ q) :
    n ≤ roundAway q := by
  unfold roundAway
  split
  · have hfloor : ((-q + 1 / 2).floor : Rat) ≤ -q + 1 / 2 := Rat.floor_le _
    have hlt : ((-q + 1 / 2).floor : Rat) < -n + 1 := by linarith
    have : (-q + 1 / 2).floor < -n + 1 := by exact_mod_cast hlt
    omega
  · rw [Rat.le_floor_iff]
    linarith

theorem roundAway_intCast
    (n : Int) :
    roundAway n = n :=
  le_antisymm (roundAway_le le_rfl) (le_roundAway le_rfl)

end Integers

namespace BinaryFormat

variable {f : BinaryFormat} {q m : Rat}

/-- A number of the format that is not negative, its overflow aside. -/
def OnGrid
    (f : BinaryFormat)
    (m : Rat) : Prop :=
  ∃ (significand : Nat) (e : Int),
    m = significand * (2 : Rat) ^ e ∧ significand ≤ 2 ^ f.precision ∧ f.leastExponent ≤ e

/-- A finite number of the format that is not negative. -/
def Holds
    (f : BinaryFormat)
    (m : Rat) : Prop :=
  m < (2 : Rat) ^ f.overflowExponent ∧ f.OnGrid m

theorem OnGrid.nonneg
    (hm : f.OnGrid m) :
    0 ≤ m := by
  obtain ⟨significand, e, rfl, -, -⟩ := hm
  exact mul_nonneg (Nat.cast_nonneg _) (zpow_nonneg zero_le_two _)

/-- The multiple of the unit that is nearest to a rational. -/
def nearest
    (f : BinaryFormat)
    (q : Rat) : Rat :=
  roundEven (q / f.unit q) * f.unit q

theorem natAbs_num
    (hq : 0 ≤ q) :
    (q.num.natAbs : Rat) = q * q.den := by
  have hnatAbs : (q.num.natAbs : Int) = q.num := Int.natAbs_of_nonneg (Rat.num_nonneg.mpr hq)
  calc (q.num.natAbs : Rat)
      = (q.num : Rat) := by simpa using congrArg (fun z : Int => (z : Rat)) hnatAbs
    _ = q * q.den := (Rat.mul_den_eq_num q).symm

/-- The power of two that a positive rational is measured by does not exceed it. -/
theorem zpow_floorLog2_le
    (hq : 0 < q) :
    (2 : Rat) ^ floorLog2 q ≤ q := by
  unfold floorLog2
  simp only [twoPow_eq_zpow]
  split
  · assumption
  · have hden : (0 : Rat) < q.den := by exact_mod_cast q.den_pos
    have hnum : (q.num.natAbs : Rat) = q * q.den := natAbs_num hq.le
    have hbelow : ((2 ^ Nat.log2 q.num.natAbs : Nat) : Rat) ≤ q.num.natAbs := by
      have hne : q.num.natAbs ≠ 0 := by
        rw [ne_eq, Int.natAbs_eq_zero, Rat.num_eq_zero]
        exact hq.ne'
      exact_mod_cast Nat.log2_self_le hne
    have habove : (q.den : Rat) ≤ ((2 ^ (Nat.log2 q.den + 1) : Nat) : Rat) := by
      exact_mod_cast (Nat.lt_log2_self (n := q.den)).le
    push_cast at hbelow habove
    refine le_of_mul_le_mul_right ?_ hden
    calc (2 : Rat) ^ ((Nat.log2 q.num.natAbs : Int) - (Nat.log2 q.den : Int) - 1) * q.den
        ≤ (2 : Rat) ^ ((Nat.log2 q.num.natAbs : Int) - (Nat.log2 q.den : Int) - 1)
            * (2 : Rat) ^ (Nat.log2 q.den + 1) :=
          mul_le_mul_of_nonneg_left habove (zpow_nonneg zero_le_two _)
      _ = (2 : Rat) ^ Nat.log2 q.num.natAbs := by
          rw [← zpow_natCast, ← zpow_natCast, ← zpow_add₀ two_ne_zero]
          congr 1
          push_cast
          ring
      _ ≤ q.num.natAbs := hbelow
      _ = q * q.den := hnum

/-- The exponent of the unit of a rational. -/
def unitExponent
    (f : BinaryFormat)
    (q : Rat) : Int :=
  max (floorLog2 q - (f.precision - 1)) f.leastExponent

theorem unit_eq_zpow
    (hq : 0 ≤ q) :
    f.unit q = (2 : Rat) ^ f.unitExponent q := by
  rw [unit, twoPow_eq_zpow, Rat.abs_of_nonneg hq, unitExponent]

/-- A multiple of a power of two is one of each smaller power. -/
theorem exists_multiple
    (significand : Nat)
    {small large : Int}
    (hle : small ≤ large) :
    ∃ n : Int, (significand : Rat) * (2 : Rat) ^ large = n * (2 : Rat) ^ small := by
  obtain ⟨d, hd⟩ := Int.eq_ofNat_of_zero_le (sub_nonneg.mpr hle)
  refine ⟨significand * 2 ^ d, ?_⟩
  have hlarge : large = (d : Int) + small := by omega
  rw [hlarge, zpow_add₀ two_ne_zero, zpow_natCast]
  push_cast
  ring

theorem nearest_le_multiple
    {n : Int}
    (hq : 0 ≤ q)
    (hle : q ≤ n * (2 : Rat) ^ f.unitExponent q) :
    f.nearest q ≤ n * (2 : Rat) ^ f.unitExponent q := by
  have hunit : (0 : Rat) < (2 : Rat) ^ f.unitExponent q := zpow_pos two_pos _
  have hround : roundEven (q / (2 : Rat) ^ f.unitExponent q) ≤ n :=
    roundEven_le ((div_le_iff₀ hunit).mpr hle)
  rw [nearest, unit_eq_zpow hq]
  exact mul_le_mul_of_nonneg_right (by exact_mod_cast hround) hunit.le

theorem multiple_le_nearest
    {n : Int}
    (hq : 0 ≤ q)
    (hle : n * (2 : Rat) ^ f.unitExponent q ≤ q) :
    n * (2 : Rat) ^ f.unitExponent q ≤ f.nearest q := by
  have hunit : (0 : Rat) < (2 : Rat) ^ f.unitExponent q := zpow_pos two_pos _
  have hround : n ≤ roundEven (q / (2 : Rat) ^ f.unitExponent q) :=
    le_roundEven ((le_div_iff₀ hunit).mpr hle)
  rw [nearest, unit_eq_zpow hq]
  exact mul_le_mul_of_nonneg_right (by exact_mod_cast hround) hunit.le

/--
A number of the format that is finer than the unit of a rational does not exceed the power of two
that the unit comes from, and this one is a multiple of the unit below the rational.
-/
theorem le_multiple_of_finer
    (hprecision : 1 ≤ f.precision)
    (hq : 0 < q)
    {significand : Nat}
    {e : Int}
    (hsignificand : significand ≤ 2 ^ f.precision)
    (hleast : f.leastExponent ≤ e)
    (hfiner : e < f.unitExponent q) :
    ∃ n : Int,
      significand * (2 : Rat) ^ e ≤ n * (2 : Rat) ^ f.unitExponent q ∧
        n * (2 : Rat) ^ f.unitExponent q ≤ q := by
  have hexponent : f.unitExponent q = floorLog2 q - (f.precision - 1) := by
    unfold unitExponent at hfiner ⊢
    omega
  obtain ⟨n, hn⟩ := exists_multiple 1 (show f.unitExponent q ≤ floorLog2 q by omega)
  rw [Nat.cast_one, one_mul] at hn
  refine ⟨n, ?_, ?_⟩
  · calc (significand : Rat) * (2 : Rat) ^ e
        ≤ (2 : Rat) ^ f.precision * (2 : Rat) ^ e := by
          apply mul_le_mul_of_nonneg_right _ (zpow_nonneg zero_le_two _)
          exact_mod_cast hsignificand
      _ = (2 : Rat) ^ ((f.precision : Int) + e) := by
          rw [zpow_add₀ two_ne_zero, zpow_natCast]
      _ ≤ (2 : Rat) ^ floorLog2 q := zpow_le_zpow_right₀ one_le_two (by omega)
      _ = n * (2 : Rat) ^ f.unitExponent q := hn
  · rw [← hn]
    exact zpow_floorLog2_le hq

@[simp] theorem nearest_zero :
    f.nearest 0 = 0 := by
  have hzero : roundEven 0 = 0 := roundEven_intCast 0
  rw [nearest, zero_div, hzero, Int.cast_zero, zero_mul]

theorem nearest_nonneg
    (hq : 0 ≤ q) :
    0 ≤ f.nearest q := by
  have hmultiple := multiple_le_nearest (f := f) (n := 0) hq (by simpa using hq)
  simpa using hmultiple

/-- Rounding does not move a rational above a number of the format. -/
theorem nearest_le
    (hprecision : 1 ≤ f.precision)
    (hq : 0 ≤ q)
    (hm : f.OnGrid m)
    (hle : q ≤ m) :
    f.nearest q ≤ m := by
  obtain ⟨significand, e, rfl, hsignificand, hleast⟩ := hm
  by_cases hcoarser : f.unitExponent q ≤ e
  · obtain ⟨n, hn⟩ := exists_multiple significand hcoarser
    rw [hn] at hle ⊢
    exact nearest_le_multiple hq hle
  · rcases hq.eq_or_lt with rfl | hpos
    · rwa [nearest_zero]
    · obtain ⟨n, hbelow, habove⟩ :=
        le_multiple_of_finer hprecision hpos hsignificand hleast (not_le.mp hcoarser)
      exact (nearest_le_multiple hq (hle.trans hbelow)).trans (habove.trans hle)

/-- Rounding does not move a rational below a number of the format. -/
theorem le_nearest
    (hprecision : 1 ≤ f.precision)
    (hq : 0 ≤ q)
    (hm : f.OnGrid m)
    (hle : m ≤ q) :
    m ≤ f.nearest q := by
  obtain ⟨significand, e, rfl, hsignificand, hleast⟩ := hm
  by_cases hcoarser : f.unitExponent q ≤ e
  · obtain ⟨n, hn⟩ := exists_multiple significand hcoarser
    rw [hn] at hle ⊢
    exact multiple_le_nearest hq hle
  · rcases hq.eq_or_lt with rfl | hpos
    · rwa [nearest_zero]
    · obtain ⟨n, hbelow, habove⟩ :=
        le_multiple_of_finer hprecision hpos hsignificand hleast (not_le.mp hcoarser)
      exact hbelow.trans (multiple_le_nearest hq habove)

/-- A rational that is not negative is rounded to its nearest number, or to infinity. -/
theorem round_of_nonneg
    (hq : 0 ≤ q) :
    f.round q =
      if (2 : Rat) ^ f.overflowExponent ≤ f.nearest q then .infinite false
      else .num (f.nearest q) := by
  have hvalue : (roundEven (q / f.unit q) : Rat) * f.unit q = f.nearest q := rfl
  have hoverflow : (0 : Rat) < (2 : Rat) ^ f.overflowExponent := zpow_pos two_pos _
  simp only [round, hvalue, twoPow_eq_zpow, Rat.abs_of_nonneg (nearest_nonneg hq),
    not_lt.mpr hq, decide_false, if_false]
  split
  · next hzero =>
      rw [hzero, if_neg (not_le.mpr hoverflow)]
  · rfl

end BinaryFormat

end CodeAudit
