import CodeAudit.Proofs.Floating.Rounding

/-!
# Bounds on floating-point results

Two statements about a number are carried through arithmetic: that it is finite and lies within two
bounds, and that it is not below a bound, where it may be infinity.  Neither holds of what is not a
number, so both say that a result is one.  An operation gives its exact result or the number nearest
to it; rounding keeps bounds that are numbers of the format, so it is enough to bound the exact
result.

**Results.**
* `Rounds.within`, `Rounds.notBelow`: bounds on the exact result are bounds on the rounded one.
* `rounds_add`, `rounds_mul`, `rounds_div`: the operations round their exact results.
* `Within.roundTenth`, `NotBelow.roundTenth`: rounding to tenths.
* `within_clamp`, `NotBelow.within_minimum`, `notBelow_maximum`: bounds that a program enforces.
-/

namespace CodeAudit

namespace BinaryFormat

/-- An integer of few digits times a power of two is a number of the 64-bit format. -/
theorem holds_natCast_mul_pow
    {n d p : Nat}
    (hn : n < 2 ^ d)
    (hd : d ≤ 53)
    (hp : d + p ≤ 1024) :
    double.Holds (n * 2 ^ p) := by
  have hsignificand : n ≤ 2 ^ 53 := hn.le.trans (Nat.pow_le_pow_right (by decide) hd)
  refine ⟨?_, n, p, by simp, hsignificand, (show (-1074 : Int) ≤ p by omega)⟩
  have hbound : (n : Rat) < 2 ^ d := by exact_mod_cast hn
  calc (n : Rat) * 2 ^ p
      < 2 ^ d * 2 ^ p := mul_lt_mul_of_pos_right hbound (pow_pos two_pos _)
    _ = (2 : Rat) ^ ((d + p : Nat) : Int) := by rw [zpow_natCast, pow_add]
    _ ≤ (2 : Rat) ^ (1024 : Int) := zpow_le_zpow_right₀ one_le_two (by exact_mod_cast hp)

/-- The integers up to the greatest significand are numbers of the 64-bit format. -/
theorem holds_natCast
    {n : Nat}
    (hle : n ≤ 2 ^ 53) :
    double.Holds n := by
  refine ⟨?_, n, 0, by simp, hle, by decide⟩
  have hbound : (n : Rat) ≤ (2 : Rat) ^ (53 : Int) := by exact_mod_cast hle
  exact hbound.trans_lt (zpow_lt_zpow_right₀ one_lt_two (by decide))

/-- So are their halves. -/
theorem holds_natCast_half
    {n : Nat}
    (hle : n ≤ 2 ^ 53) :
    double.Holds (n / 2) := by
  refine ⟨?_, n, -1, by rw [zpow_neg_one, div_eq_mul_inv], hle, by decide⟩
  exact (half_le_self (Nat.cast_nonneg n)).trans_lt (holds_natCast hle).1

theorem holds_zero :
    double.Holds 0 := by
  exact_mod_cast holds_natCast (n := 0) (by decide)

theorem holds_one :
    double.Holds 1 := by
  exact_mod_cast holds_natCast (n := 1) (by decide)

end BinaryFormat

namespace Floating

open BinaryFormat

/-- A finite number between two bounds. -/
def Within
    (low high : Rat)
    (x : Floating) : Prop :=
  ∃ q, x.value? = some q ∧ low ≤ q ∧ q ≤ high

/-- A finite number that is not below a bound, or infinity. -/
def NotBelow
    (low : Rat)
    (x : Floating) : Prop :=
  x = .infinite false ∨ ∃ q, x.value? = some q ∧ low ≤ q

/-- A rational itself, or the number nearest to it. -/
def Rounds
    (q : Rat)
    (x : Floating) : Prop :=
  x = ofRat q ∨ x.value? = some q

variable {x y : Floating} {a b c q low high : Rat}

section Rounding

/-- Bounds that are numbers are kept by rounding. -/
theorem Rounds.within
    (hx : Rounds q x)
    (hlow : double.Holds low)
    (hhigh : double.Holds high)
    (hlowLe : low ≤ q)
    (hleHigh : q ≤ high) :
    Within low high x := by
  rcases hx with rfl | hx
  · have hq : 0 ≤ q := hlow.2.nonneg.trans hlowLe
    have habove : low ≤ double.nearest q := le_nearest (by decide) hq hlow.2 hlowLe
    have hbelow : double.nearest q ≤ high := nearest_le (by decide) hq hhigh.2 hleHigh
    refine ⟨double.nearest q, ?_, habove, hbelow⟩
    rw [ofRat, round_of_nonneg hq, if_neg (not_le.mpr (hbelow.trans_lt hhigh.1)), value?]
  · exact ⟨q, hx, hlowLe, hleHigh⟩

/-- A bound from below that is a number is kept by rounding. -/
theorem Rounds.notBelow
    (hx : Rounds q x)
    (hlow : double.Holds low)
    (hle : low ≤ q) :
    NotBelow low x := by
  rcases hx with rfl | hx
  · have hq : 0 ≤ q := hlow.2.nonneg.trans hle
    rw [ofRat, round_of_nonneg hq]
    split
    · exact Or.inl rfl
    · exact Or.inr ⟨double.nearest q, rfl, le_nearest (by decide) hq hlow.2 hle⟩
  · exact Or.inr ⟨q, hx, hle⟩

theorem Within.notBelow
    (hx : Within low high x) :
    NotBelow low x := by
  obtain ⟨q, hvalue, hle, -⟩ := hx
  exact Or.inr ⟨q, hvalue, hle⟩

theorem Within.isFinite
    (hx : Within low high x) :
    x.isFinite = true := by
  obtain ⟨q, hvalue, -, -⟩ := hx
  rw [Floating.isFinite, hvalue, Option.isSome_some]

theorem ofRat_ne_nan
    (q : Rat) :
    ofRat q ≠ .nan := by
  unfold ofRat BinaryFormat.round
  simp only
  split
  · split <;> simp
  · split <;> simp

/-- A number of the format is rounded to itself. -/
theorem ofRat_of_holds
    (hq : double.Holds q) :
    ofRat q = .num q := by
  have hnearest : double.nearest q = q :=
    le_antisymm (nearest_le (by decide) hq.2.nonneg hq.2 le_rfl)
      (le_nearest (by decide) hq.2.nonneg hq.2 le_rfl)
  rw [ofRat, round_of_nonneg hq.2.nonneg, hnearest, if_neg (not_le.mpr hq.1)]

theorem ofNat_eq_num
    {n : Nat}
    (hle : n ≤ 2 ^ 53) :
    ofNat n = .num n :=
  ofRat_of_holds (holds_natCast hle)

/-- What reaches the overflow of the format is rounded to infinity. -/
theorem ofRat_eq_infinite
    (hle : (2 : Rat) ^ double.overflowExponent ≤ q) :
    ofRat q = .infinite false := by
  have hgrid : double.OnGrid ((2 : Rat) ^ double.overflowExponent) :=
    ⟨1, 1024, by simp [double], by decide, by decide⟩
  have hq : 0 ≤ q := hgrid.nonneg.trans hle
  rw [ofRat, round_of_nonneg hq, if_pos (le_nearest (by decide) hq hgrid hle)]

theorem zero_eq_num :
    (0 : Floating) = .num 0 := by
  exact_mod_cast ofNat_eq_num (n := 0) (by decide)

theorem one_eq_num :
    (1 : Floating) = .num 1 := by
  exact_mod_cast ofNat_eq_num (n := 1) (by decide)

theorem two_eq_num :
    (2 : Floating) = .num 2 := by
  exact_mod_cast ofNat_eq_num (n := 2) (by decide)

theorem ten_eq_num :
    (10 : Floating) = .num 10 := by
  exact_mod_cast ofNat_eq_num (n := 10) (by decide)

theorem notBelow_ofNat
    (n : Nat) :
    NotBelow 0 (ofNat n) := by
  exact Rounds.notBelow (Or.inl rfl) holds_zero (Nat.cast_nonneg n)

end Rounding

section Operations

@[simp] theorem value?_zero
    (negative : Bool) :
    (zero negative).value? = some 0 := by
  cases negative <;> rfl

theorem rounds_add
    (hx : x.value? = some a)
    (hy : y.value? = some b) :
    Rounds (a + b) (x + y) := by
  change Rounds (a + b) (add x y)
  cases x <;> cases y <;> simp_all [value?, add, Rounds]

protected theorem mul_comm
    (x y : Floating) :
    x * y = y * x := by
  change mul x y = mul y x
  cases x <;> cases y <;> simp [mul, Rat.mul_comm, bne_comm]

/-- The product of finite numbers is rounded unless it is zero. -/
theorem mul_of_finite
    (hx : x.value? = some a)
    (hy : y.value? = some b) :
    x * y = if a * b = 0 then zero (x.isNegative != y.isNegative) else ofRat (a * b) := by
  change mul x y = _
  cases x <;> cases y <;> simp_all [value?, mul]

theorem rounds_mul
    (hx : x.value? = some a)
    (hy : y.value? = some b) :
    Rounds (a * b) (x * y) := by
  rw [mul_of_finite hx hy]
  split
  · next hzero => exact Or.inr (by rw [value?_zero, hzero])
  · exact Or.inl rfl

theorem rounds_div
    (hx : x.value? = some a)
    (hy : y.value? = some b)
    (hb : b ≠ 0) :
    Rounds (a / b) (x / y) := by
  change Rounds (a / b) (div x y)
  have hquotient :
      div x y =
        if a = 0 then zero (x.isNegative != y.isNegative) else ofRat (a / b) := by
    cases x <;> cases y <;> simp_all [value?, div]
  rw [hquotient]
  split
  · next hzero => exact Or.inr (by rw [value?_zero, hzero, zero_div])
  · exact Or.inl rfl

/-- A bound holds for a greater number. -/
theorem NotBelow.mono
    (hx : NotBelow high x)
    (hle : low ≤ high) :
    NotBelow low x := by
  rcases hx with hx | ⟨q, hvalue, hhigh⟩
  · exact Or.inl hx
  · exact Or.inr ⟨q, hvalue, hle.trans hhigh⟩

theorem Within.add
    {low' high' : Rat}
    (hx : Within low high x)
    (hy : Within low' high' y)
    (ha : double.Holds a)
    (hb : double.Holds b)
    (hlows : a ≤ low + low')
    (hhighs : high + high' ≤ b) :
    Within a b (x + y) := by
  obtain ⟨q, hq, hlow, hhigh⟩ := hx
  obtain ⟨r, hr, hlow', hhigh'⟩ := hy
  exact (rounds_add hq hr).within ha hb (by linarith) (by linarith)

theorem Within.div_num
    (hx : Within low high x)
    (hc : 0 < c)
    (ha : double.Holds a)
    (hb : double.Holds b)
    (hlow : a ≤ low / c)
    (hhigh : high / c ≤ b) :
    Within a b (x / .num c) := by
  obtain ⟨q, hvalue, hle, hle'⟩ := hx
  apply (rounds_div hvalue rfl hc.ne').within ha hb
  · exact hlow.trans (div_le_div_of_nonneg_right hle hc.le)
  · exact (div_le_div_of_nonneg_right hle' hc.le).trans hhigh

/-- Infinity and what is not below a bound add up to what is not below the sum of the bounds. -/
theorem NotBelow.add
    (hx : NotBelow low x)
    (hy : NotBelow high y)
    (hsum : double.Holds (low + high)) :
    NotBelow (low + high) (x + y) := by
  rcases hx with rfl | ⟨a, ha, hlow⟩
  · rcases hy with rfl | ⟨b, hb, -⟩
    · exact Or.inl rfl
    · cases y <;> simp_all [value?] <;> exact Or.inl rfl
  · rcases hy with rfl | ⟨b, hb, hhigh⟩
    · cases x <;> simp_all [value?] <;> exact Or.inl rfl
    · exact (rounds_add ha hb).notBelow hsum (by linarith)

theorem infinite_mul_num
    (hc : 0 < c) :
    Floating.infinite false * .num c = .infinite false := by
  change mul (.infinite false) (.num c) = .infinite false
  simp [mul, value?, isNegative, hc.ne', hc.le]

theorem NotBelow.mul_num
    (hx : NotBelow low x)
    (hc : 0 < c)
    (hproduct : double.Holds (low * c)) :
    NotBelow (low * c) (x * .num c) := by
  rcases hx with rfl | ⟨a, ha, hlow⟩
  · exact Or.inl (infinite_mul_num hc)
  · exact (rounds_mul ha rfl).notBelow hproduct (mul_le_mul_of_nonneg_right hlow hc.le)

/-- A product that reaches the overflow of the format is infinite. -/
theorem NotBelow.mul_num_eq_infinite
    (hx : NotBelow low x)
    (hc : 0 < c)
    (hoverflow : (2 : Rat) ^ double.overflowExponent ≤ low * c) :
    x * .num c = .infinite false := by
  rcases hx with rfl | ⟨a, ha, hlow⟩
  · exact infinite_mul_num hc
  · have hproduct : (2 : Rat) ^ double.overflowExponent ≤ a * c :=
      hoverflow.trans (mul_le_mul_of_nonneg_right hlow hc.le)
    have hpos : 0 < a * c := (zpow_pos two_pos _).trans_le hproduct
    rw [mul_of_finite ha (b := c) rfl, if_neg hpos.ne', ofRat_eq_infinite hproduct]

theorem NotBelow.div_num
    (hx : NotBelow low x)
    (hc : 0 < c)
    (hquotient : double.Holds (low / c)) :
    NotBelow (low / c) (x / .num c) := by
  rcases hx with rfl | ⟨a, ha, hlow⟩
  · left
    change div (.infinite false) (.num c) = .infinite false
    simp [div, isNegative, hc.le]
  · exact (rounds_div ha rfl hc.ne').notBelow hquotient (div_le_div_of_nonneg_right hlow hc.le)

/-- A quotient is not negative, unless infinity is divided by itself. -/
theorem NotBelow.div
    (hx : NotBelow 0 x)
    (hy : NotBelow c y)
    (hc : 0 < c) :
    x / y = .nan ∨ NotBelow 0 (x / y) := by
  rcases hx with rfl | ⟨a, ha, hnonneg⟩
  · rcases hy with rfl | ⟨b, hb, hle⟩
    · exact Or.inl rfl
    · right
      left
      have hpos : 0 < b := hc.trans_le hle
      have hnonneg : 0 ≤ b := hpos.le
      change div (.infinite false) y = .infinite false
      cases y <;> simp_all [div, value?, isNegative]
  · right
    rcases hy with rfl | ⟨b, hb, hle⟩
    · right
      refine ⟨0, ?_, le_rfl⟩
      change (div x (.infinite false)).value? = some 0
      have hquotient : div x (.infinite false) = zero (x.isNegative != false) := by
        cases x <;> simp_all [div, value?, isNegative]
      rw [hquotient, value?_zero]
    · exact (rounds_div ha hb (hc.trans_le hle).ne').notBelow holds_zero
        (div_nonneg hnonneg (hc.le.trans hle))

/-- A quotient is at least the quotient of the bounds. -/
theorem NotBelow.div_of_le
    (hx : NotBelow low x)
    (hlow : 0 ≤ low)
    (hy : Within c high y)
    (hc : 0 < c)
    (hquotient : double.Holds (low / high)) :
    NotBelow (low / high) (x / y) := by
  obtain ⟨b, hb, hle, hle'⟩ := hy
  have hpos : 0 < b := hc.trans_le hle
  rcases hx with rfl | ⟨a, ha, hlowLe⟩
  · left
    have hnonneg : 0 ≤ b := hpos.le
    change Floating.div (.infinite false) y = .infinite false
    cases y <;> simp_all [Floating.div, value?, isNegative]
  · apply (rounds_div ha hb hpos.ne').notBelow hquotient
    exact div_le_div₀ (hlow.trans hlowLe) hlowLe hpos hle'

theorem Rounds.value?_of_zero
    (hx : Rounds 0 x) :
    x.value? = some 0 := by
  rcases hx with rfl | hvalue
  · rw [ofRat_of_holds holds_zero, value?]
  · exact hvalue

end Operations

section Tenths

theorem value?_roundInteger
    (hx : x.value? = some q) :
    x.roundInteger.value? = some (roundAway q : Rat) := by
  cases x with
  | nan =>
      simp [value?] at hx
  | infinite negative =>
      simp [value?] at hx
  | negativeZero =>
      obtain rfl : 0 = q := by simpa [value?] using hx
      have hzero : roundAway 0 = 0 := roundAway_intCast 0
      simp [roundInteger, value?, hzero]
  | num value =>
      obtain rfl : value = q := by simpa [value?] using hx
      simp only [roundInteger]
      split
      · next hzero => rw [value?_zero, hzero]
      · rfl

theorem Within.roundInteger
    {n k : Nat}
    (hx : Within n k x) :
    Within n k x.roundInteger := by
  obtain ⟨q, hvalue, hlow, hhigh⟩ := hx
  refine ⟨roundAway q, value?_roundInteger hvalue, ?_, ?_⟩
  · exact_mod_cast le_roundAway (n := n) (by exact_mod_cast hlow)
  · exact_mod_cast roundAway_le (n := k) (by exact_mod_cast hhigh)

theorem NotBelow.roundInteger
    {n : Nat}
    (hx : NotBelow n x) :
    NotBelow n x.roundInteger := by
  rcases hx with rfl | ⟨q, hvalue, hlow⟩
  · exact Or.inl rfl
  · refine Or.inr ⟨roundAway q, value?_roundInteger hvalue, ?_⟩
    exact_mod_cast le_roundAway (n := n) (by exact_mod_cast hlow)

/-- Bounds that are whole numbers of tenths are kept by rounding to tenths. -/
theorem Within.roundTenth
    {n k : Nat}
    (hx : Within low high x)
    (hlow : double.Holds low)
    (hhigh : double.Holds high)
    (hn : low * 10 = n)
    (hk : high * 10 = k)
    (hholds : double.Holds n)
    (hholds' : double.Holds k) :
    Within low high x.roundTenth := by
  obtain ⟨q, hvalue, hle, hle'⟩ := hx
  have hscaled : Within n k (x * 10) := by
    rw [ten_eq_num]
    exact (rounds_mul hvalue rfl).within hholds hholds' (by linarith) (by linarith)
  obtain ⟨r, hrounded, hr, hr'⟩ := hscaled.roundInteger
  rw [Floating.roundTenth, ten_eq_num]
  rw [ten_eq_num] at hrounded
  refine (rounds_div hrounded rfl (by norm_num)).within hlow hhigh ?_ ?_
  · rw [le_div_iff₀ (by norm_num), hn]
    exact hr
  · rw [div_le_iff₀ (by norm_num), hk]
    exact hr'

theorem NotBelow.roundTenth
    {n : Nat}
    (hx : NotBelow low x)
    (hlow : double.Holds low)
    (hn : low * 10 = n)
    (hholds : double.Holds n) :
    NotBelow low x.roundTenth := by
  have hscaled : NotBelow n (x * .num 10) := by
    rw [← hn] at hholds ⊢
    exact hx.mul_num (by norm_num) hholds
  have hquotient : (n : Rat) / 10 = low := by
    rw [← hn]
    exact mul_div_cancel_right₀ low (by norm_num)
  rw [Floating.roundTenth, ten_eq_num, ← hquotient]
  exact hscaled.roundInteger.div_num (by norm_num) (by rwa [hquotient])

end Tenths

section Enforced

theorem less_eq_decide
    (hx : x.value? = some a)
    (hy : y.value? = some b) :
    less x y = decide (a < b) := by
  cases x <;> cases y <;> simp_all [value?, less]

/-- What is a number is moved within the bounds. -/
theorem within_clamp
    (hx : x ≠ .nan)
    (hle : low ≤ high) :
    Within low high (clamp (.num low) (.num high) x) := by
  unfold clamp
  cases hvalue : x.value? with
  | none =>
      cases x with
      | infinite negative =>
          cases negative
          · exact ⟨high, rfl, hle, le_rfl⟩
          · exact ⟨low, rfl, le_rfl, hle⟩
      | _ =>
          simp_all [value?]
  | some q =>
      rw [less_eq_decide hvalue (b := low) rfl, less_eq_decide (a := high) rfl hvalue]
      split
      · exact ⟨low, rfl, le_rfl, hle⟩
      · next hlow =>
          split
          · exact ⟨high, rfl, hle, le_rfl⟩
          · next hhigh =>
              exact ⟨q, hvalue, by simpa using hlow, by simpa using hhigh⟩

/-- The smaller of two finite numbers. -/
theorem minimum_of_finite
    (hx : x.value? = some a)
    (hy : y.value? = some b) :
    x.minimum y = if b < a then y else x := by
  have hless := less_eq_decide hy hx
  cases x <;> cases y <;> simp_all [minimum, value?]

theorem num_minimum_num
    (q r : Rat) :
    (Floating.num q).minimum (.num r) = .num (min q r) := by
  rw [minimum_of_finite (a := q) (b := r) rfl rfl]
  split_ifs with hlt
  · rw [min_eq_right hlt.le]
  · rw [min_eq_left (not_lt.mp hlt)]

/-- A number is cut at an upper bound; what is not a number is replaced by the bound. -/
theorem within_minimum
    (hx : x = .nan ∨ NotBelow low x)
    (hle : low ≤ high) :
    Within low high (x.minimum (.num high)) := by
  rcases hx with rfl | rfl | ⟨q, hvalue, hlow⟩
  · exact ⟨high, rfl, hle, le_rfl⟩
  · exact ⟨high, rfl, hle, le_rfl⟩
  · rw [minimum_of_finite hvalue (b := high) rfl]
    split
    · exact ⟨high, rfl, hle, le_rfl⟩
    · next hhigh => exact ⟨q, hvalue, hlow, not_lt.mp hhigh⟩

/-- The greater of two finite numbers. -/
theorem maximum_of_finite
    (hx : x.value? = some a)
    (hy : y.value? = some b) :
    x.maximum y = if a < b then y else x := by
  have hless := less_eq_decide hx hy
  cases x <;> cases y <;> simp_all [maximum, value?]

theorem num_maximum_num
    (q r : Rat) :
    (Floating.num q).maximum (.num r) = .num (max q r) := by
  rw [maximum_of_finite (a := q) (b := r) rfl rfl]
  split_ifs with hlt
  · rw [max_eq_right hlt.le]
  · rw [max_eq_left (not_lt.mp hlt)]

/-- The greater of two numbers is not below a bound that the first one is not below. -/
theorem NotBelow.maximum
    (hx : NotBelow low x)
    (y : Floating) :
    NotBelow low (x.maximum y) := by
  rcases hx with rfl | ⟨q, hvalue, hlow⟩
  · cases y <;> exact Or.inl rfl
  · cases hother : y.value? with
    | some b =>
        rw [maximum_of_finite hvalue hother]
        split
        · next hlt => exact Or.inr ⟨b, hother, hlow.trans hlt.le⟩
        · exact Or.inr ⟨q, hvalue, hlow⟩
    | none =>
        -- Infinity is greater; what is not a number and negative infinity are not.
        have hcases : x.maximum y = .infinite false ∨ x.maximum y = x := by
          cases x <;> cases y <;> simp_all [value?, Floating.maximum, less]
        rcases hcases with hmax | hmax
        · exact Or.inl hmax
        · exact Or.inr ⟨q, by rw [hmax, hvalue], hlow⟩

theorem Within.maximum
    (hx : Within a high x)
    (low : Rat)
    (hle : low ≤ high) :
    Within low high (x.maximum (.num low)) := by
  obtain ⟨q, hvalue, -, hhigh⟩ := hx
  rw [maximum_of_finite hvalue (b := low) rfl]
  split
  · exact ⟨low, rfl, le_rfl, hle⟩
  · next hlow => exact ⟨q, hvalue, not_lt.mp hlow, hhigh⟩

/-- A number is raised to a lower bound; what is not a number is replaced by the bound. -/
theorem notBelow_maximum
    (low : Rat)
    (x : Floating) :
    NotBelow low (x.maximum (.num low)) := by
  cases hvalue : x.value? with
  | some q =>
      rw [maximum_of_finite hvalue (b := low) rfl]
      split
      · exact Or.inr ⟨low, rfl, le_rfl⟩
      · next hle => exact Or.inr ⟨q, hvalue, not_lt.mp hle⟩
  | none =>
      have hcases : x.maximum (.num low) = .infinite false ∨ x.maximum (.num low) = .num low := by
        rcases x with _ | negative | _ | _ <;> simp_all [value?, maximum, less]
        cases negative <;> simp
      rcases hcases with hmax | hmax
      · exact Or.inl hmax
      · exact Or.inr ⟨low, by rw [hmax, value?], le_rfl⟩

end Enforced

end Floating
end CodeAudit
