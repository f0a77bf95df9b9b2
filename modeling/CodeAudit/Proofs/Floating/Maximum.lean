import CodeAudit.Proofs.Floating.Monotone

/-!
# The greatest of many numbers

On numbers that are not negative `AtMost` is an order with a greatest element.  A maximum that is
carried along from such a number stays one: whatever else comes, not a number, a negative number or a
negative zero, leaves it as it is.  So the carried maximum is the least number that nothing in the list
exceeds, and this says all about it; it does not depend on the order of the list, since only the
members of the list count.

**Results.**
* `AtMost.trans`, `AtMost.antisymm`: the order.
* `foldl_maximum_atMost_iff`: the carried maximum is a least upper bound.
* `foldl_maximum_mono`: more numbers have a greater maximum.
* `AtMost.minimum_num`, `atLeast_of_raised`: cutting at an upper bound, and comparisons in the program.
* `IsNumber.maximum_zero_add_zero`: a number of the format is not rounded again.
-/

namespace CodeAudit
namespace Floating

open BinaryFormat

variable {x y z : Floating} {c : Rat}

section Order

theorem AtMost.left
    (hxy : AtMost x y) :
    AtMost x x := by
  cases hxy with
  | num hq _ =>
      exact AtMost.num hq le_rfl
  | overflow hq =>
      exact AtMost.num hq le_rfl
  | infinite =>
      exact AtMost.infinite

theorem AtMost.right
    (hxy : AtMost x y) :
    AtMost y y := by
  cases hxy with
  | num hq hle =>
      exact AtMost.num (hq.trans hle) le_rfl
  | overflow _ =>
      exact AtMost.infinite
  | infinite =>
      exact AtMost.infinite

theorem AtMost.trans
    (hxy : AtMost x y)
    (hyz : AtMost y z) :
    AtMost x z := by
  cases hxy with
  | num hq hle =>
      cases hyz with
      | num _ hle' =>
          exact AtMost.num hq (hle.trans hle')
      | overflow _ =>
          exact AtMost.overflow hq
  | overflow hq =>
      cases hyz
      exact AtMost.overflow hq
  | infinite =>
      exact hyz

theorem AtMost.antisymm
    (hxy : AtMost x y)
    (hyx : AtMost y x) :
    x = y := by
  cases hxy with
  | num _ hle =>
      cases hyx with
      | num _ hle' =>
          rw [le_antisymm hle hle']
  | overflow _ =>
      cases hyx
  | infinite =>
      rfl

theorem AtMost.zero
    (hxy : AtMost x y) :
    AtMost (.num 0) x := by
  cases hxy with
  | num hq _ =>
      exact AtMost.num le_rfl hq
  | overflow hq =>
      exact AtMost.num le_rfl hq
  | infinite =>
      exact AtMost.overflow le_rfl

/-- What a number is at least, a greater number is at least. -/
theorem AtMost.atLeast_mono
    (hxy : AtMost x y)
    (hx : x.atLeast z = true) :
    y.atLeast z = true := by
  cases hxy with
  | num _ hle =>
      cases z with
      | nan =>
          exact hx
      | infinite negative =>
          exact hx
      | negativeZero =>
          rw [atLeast_iff (b := 0) rfl rfl] at hx ⊢
          exact hx.trans hle
      | num b =>
          rw [atLeast_iff (b := b) rfl rfl] at hx ⊢
          exact hx.trans hle
  | overflow _ =>
      cases z <;> simp_all [Floating.atLeast, less]
  | infinite =>
      exact hx

end Order

section Maximum

/-- A number that is not negative against anything: the other one is at least as great and is taken, or
it is not greater, even when it is raised to zero. -/
theorem maximum_cases
    (hx : AtMost x x)
    (y : Floating) :
    x.maximum y = y ∧ AtMost x y ∨ x.maximum y = x ∧ AtMost ((Floating.num 0).maximum y) x := by
  cases hx with
  | num hq _ =>
      cases y with
      | nan =>
          exact Or.inr ⟨rfl, AtMost.num le_rfl hq⟩
      | infinite negative =>
          cases negative with
          | true =>
              exact Or.inr ⟨rfl, AtMost.num le_rfl hq⟩
          | false =>
              exact Or.inl ⟨rfl, AtMost.overflow hq⟩
      | negativeZero =>
          rw [maximum_of_finite (b := 0) rfl rfl, maximum_of_finite (a := 0) (b := 0) rfl rfl,
            if_neg (not_lt.mpr hq), if_neg (lt_irrefl 0)]
          exact Or.inr ⟨rfl, AtMost.num le_rfl hq⟩
      | num r =>
          rw [num_maximum_num, num_maximum_num]
          rcases le_total _ r with hle | hle
          · exact Or.inl ⟨by rw [max_eq_right hle], AtMost.num hq hle⟩
          · exact Or.inr ⟨by rw [max_eq_left hle], AtMost.num (le_max_left 0 r) (max_le hq hle)⟩
  | infinite =>
      refine Or.inr ⟨by cases y <;> rfl, ?_⟩
      cases y with
      | nan =>
          exact AtMost.overflow le_rfl
      | infinite negative =>
          cases negative with
          | true =>
              exact AtMost.overflow le_rfl
          | false =>
              exact AtMost.infinite
      | negativeZero =>
          rw [maximum_of_finite (a := 0) (b := 0) rfl rfl, if_neg (lt_irrefl 0)]
          exact AtMost.overflow le_rfl
      | num r =>
          rw [num_maximum_num]
          exact AtMost.overflow (le_max_left 0 r)

/-- Raising to zero leaves a number that is not negative as it is. -/
theorem AtMost.maximum_zero
    (hxy : AtMost x y) :
    (Floating.num 0).maximum y = y := by
  rcases maximum_cases hxy.zero.left y with ⟨hmax, -⟩ | ⟨hmax, -⟩
  · exact hmax
  · cases hxy.right with
    | num hr _ =>
        rw [num_maximum_num, max_eq_right hr]
    | infinite =>
        rfl

/-- What the greater of two numbers is at most, both are at most, and the other way round. -/
theorem maximum_atMost_iff
    (hx : AtMost x x)
    (y z : Floating) :
    AtMost (x.maximum y) z ↔ AtMost x z ∧ AtMost ((Floating.num 0).maximum y) z := by
  rcases maximum_cases hx y with ⟨hmax, hle⟩ | ⟨hmax, hle⟩
  · rw [hmax, hle.maximum_zero]
    constructor
    · intro hyz
      exact ⟨hle.trans hyz, hyz⟩
    · rintro ⟨-, hyz⟩
      exact hyz
  · rw [hmax]
    constructor
    · intro hxz
      exact ⟨hxz, hle.trans hxz⟩
    · rintro ⟨hxz, -⟩
      exact hxz

theorem atMost_maximum
    (hx : AtMost x x)
    (y : Floating) :
    AtMost (x.maximum y) (x.maximum y) := by
  rcases maximum_cases hx y with ⟨hmax, hle⟩ | ⟨hmax, -⟩
  · rw [hmax]
    exact hle.right
  · rwa [hmax]

/-- A carried maximum is a number that is not negative. -/
theorem atMost_foldl_maximum
    (hx : AtMost x x)
    (l : List Floating) :
    AtMost (l.foldl maximum x) (l.foldl maximum x) := by
  induction l generalizing x with
  | nil =>
      exact hx
  | cons y l ih =>
      exact ih (atMost_maximum hx y)

/-- The carried maximum is the least number that no number of the list exceeds. -/
theorem foldl_maximum_atMost_iff
    (hx : AtMost x x)
    (l : List Floating)
    (z : Floating) :
    AtMost (l.foldl maximum x) z ↔
      AtMost x z ∧ ∀ y ∈ l, AtMost ((Floating.num 0).maximum y) z := by
  induction l generalizing x with
  | nil =>
      simp
  | cons y l ih =>
      rw [List.foldl_cons, ih (atMost_maximum hx y), maximum_atMost_iff hx, List.forall_mem_cons,
        and_assoc]

/-- The greatest of more numbers is at least as great. -/
theorem foldl_maximum_mono
    {l l' : List Floating}
    (hsubset : l ⊆ l') :
    AtMost (l.foldl maximum (.num 0)) (l'.foldl maximum (.num 0)) := by
  have hzero : AtMost (.num 0) (.num 0) := AtMost.num le_rfl le_rfl
  have hself := atMost_foldl_maximum hzero l'
  rw [foldl_maximum_atMost_iff hzero] at hself ⊢
  exact ⟨hself.1, fun y hy => hself.2 y (hsubset hy)⟩

end Maximum

section Bounds

theorem AtMost.minimum_num
    (hxy : AtMost x y)
    (hc : 0 ≤ c) :
    AtMost (x.minimum (.num c)) (y.minimum (.num c)) := by
  cases hxy with
  | num hq hle =>
      rw [num_minimum_num, num_minimum_num]
      exact AtMost.num (le_min hq hc) (min_le_min_right c hle)
  | overflow hq =>
      rw [num_minimum_num]
      exact AtMost.num (le_min hq hc) (min_le_right _ c)
  | infinite =>
      exact AtMost.num hc le_rfl

/-- A number that is at least what another one is raised to is at least the other one. -/
theorem atLeast_of_raised
    (hy : y ≠ .nan)
    (hraised : AtMost ((Floating.num 0).maximum y) x) :
    x.atLeast y = true := by
  have hy' : ((Floating.num 0).maximum y).atLeast y = true := by
    cases y with
    | nan =>
        exact absurd rfl hy
    | infinite negative =>
        cases negative <;> rfl
    | negativeZero =>
        rfl
    | num r =>
        rw [num_maximum_num, atLeast_iff (b := r) rfl rfl]
        exact le_max_right 0 r
  exact hraised.atLeast_mono hy'

/-- Raising to zero and cutting at a bound that is not negative may be done in either order. -/
theorem minimum_maximum_zero
    (hy : y ≠ .nan)
    (hc : 0 ≤ c) :
    ((Floating.num 0).maximum y).minimum (.num c) =
      (Floating.num 0).maximum (y.minimum (.num c)) := by
  have hzero : (Floating.num 0).minimum (.num c) = .num 0 := by
    rw [num_minimum_num, min_eq_left hc]
  cases y with
  | nan =>
      exact absurd rfl hy
  | infinite negative =>
      cases negative with
      | true =>
          exact hzero
      | false =>
          exact (AtMost.num hc le_rfl : AtMost (.num c) (.num c)).maximum_zero.symm
  | negativeZero =>
      rw [maximum_of_finite (a := 0) (b := 0) rfl rfl, if_neg (lt_irrefl 0), hzero,
        minimum_of_finite (a := 0) (b := c) rfl rfl, if_neg (not_lt.mpr hc)]
      rfl
  | num r =>
      rw [num_maximum_num, num_minimum_num, num_minimum_num, num_maximum_num, max_min_distrib_left,
        max_eq_right hc]

end Bounds

section Numbers

/-- A number of the 64-bit format, or an infinity: a rational in it is one that rounding leaves alone. -/
structure IsNumber
    (x : Floating) : Prop where
  ne_nan : x ≠ .nan
  exact : ∀ q, x = .num q → ofRat q = x

/-- The halves of integers, in which scores are given, are numbers. -/
theorem isNumber_half
    {n : Nat}
    (hle : n ≤ 2 ^ 53) :
    (Floating.num (n / 2)).IsNumber := by
  constructor
  · exact Floating.noConfusion
  · rintro _ ⟨⟩
    exact ofRat_of_holds (holds_natCast_half hle)

/-- Adding zero to a number that was raised to zero rounds nothing. -/
theorem IsNumber.maximum_zero_add_zero
    (hx : x.IsNumber) :
    (Floating.num 0).maximum x + .num 0 = (Floating.num 0).maximum x := by
  have hsum : ∀ q, Floating.num q + .num 0 = ofRat q := by
    intro q
    change ofRat (q + 0) = ofRat q
    rw [add_zero]
  have hzero : Floating.num 0 + .num 0 = .num 0 := by
    rw [hsum, ofRat_zero]
  cases x with
  | nan =>
      exact absurd rfl hx.ne_nan
  | infinite negative =>
      cases negative with
      | true =>
          exact hzero
      | false =>
          rfl
  | negativeZero =>
      rw [maximum_of_finite (a := 0) (b := 0) rfl rfl, if_neg (lt_irrefl 0), hzero]
  | num r =>
      rw [num_maximum_num]
      rcases max_choice 0 r with hmax | hmax
      · rw [hmax, hzero]
      · rw [hmax, hsum, hx.exact r rfl]

theorem IsNumber.minimum_ne_nan
    (hx : x.IsNumber)
    (c : Rat) :
    x.minimum (.num c) ≠ .nan := by
  have hne := hx.ne_nan
  cases x with
  | nan =>
      exact absurd rfl hne
  | infinite negative =>
      cases negative <;> simp [minimum, less]
  | negativeZero =>
      rw [minimum_of_finite (a := 0) (b := c) rfl rfl]
      split <;> simp
  | num r =>
      rw [num_minimum_num]
      simp

end Numbers

end Floating
end CodeAudit
