import CodeAudit.Proofs.Cloud.Consistency
import CodeAudit.Proofs.Floating.Accuracy
import Mathlib.Algebra.BigOperators.Group.Finset.Piecewise
import Mathlib.Algebra.Group.Subgroup.ZPowers.Basic
import Mathlib.Algebra.Group.Submonoid.BigOperators
import Mathlib.Algebra.Order.BigOperators.Group.List

/-!
# The score of issues, exactly

The cost of issues is a sum over their categories, where the issues of one category cost the sum of
their penalties up to the cap.  Penalties and the cap are multiples of a tenth, and so are all sums,
minima and differences of them.

The program adds floating-point numbers, one issue after another, and a fifth is not such a number.  So
each sum is rounded many times, and in another order of the issues it may come to another number.  But
the error of the sums that matter is far less than a tenth: a category that has reached the cap is cut,
and a cost of ten points leaves nothing, however great the cost and its error are.  The last rounding,
to tenths, therefore yields the exact score.

**Results.**
* `exactScore_eq_readiness`: the exact score in closed form.
* `nearestTenth_exactScore`: rounding to tenths does not change it.
* `penalties_eq`: the penalties that the program has gathered, category by category.
* `follows_charged`, `follows_totalPenalty`: both sums of the program are near the exact ones.
* `heuristicScore_eq`: the program computes the exact score.
-/

namespace CodeAudit
namespace Cloud

open Floating

/-- What the issues of a category cost without the cap. -/
def penaltyIn
    (issues : List CloudIssue)
    (category : String) : Rat :=
  ((issues.filter fun issue => issue.category == category).map
    fun issue => penalty issue.severity).sum

/-- The penalty of the issues of a category, up to the cap. -/
def categoryPenalty
    (issues : List CloudIssue)
    (category : String) : Rat :=
  if penaltyIn issues category ≤ categoryCap then penaltyIn issues category else categoryCap

/-- The score, exactly. -/
def exactScore
    (issues : List CloudIssue) : Rat :=
  let left := 10 - ((categories issues).map fun (category, _) =>
    categoryPenalty issues category).sum
  if 0 ≤ left then left else 0

/-- The nearest multiple of a tenth. -/
def nearestTenth (q : Rat) : Rat := (roundAway (q * 10) : Rat) / 10

/-- What issues cost: the issues of each category together at most two and a half. -/
def cost
    (issues : List CloudIssue) : Rat :=
  ∑ category ∈ (issues.map CloudIssue.category).toFinset, min (5 / 2) (penaltyIn issues category)

/-- What the issues leave of ten points. -/
def readiness
    (issues : List CloudIssue) : Rat :=
  max 0 (10 - cost issues)

/-- The multiples of a tenth. -/
abbrev tenths : AddSubgroup Rat := AddSubgroup.zmultiples (1 / 10)

section ClosedForm

variable (issues : List CloudIssue)

theorem categoryPenalty_eq
    (category : String) :
    categoryPenalty issues category = min (5 / 2) (penaltyIn issues category) := by
  rw [min_comm, min_def]
  rfl

/-- The categories of issues, in order and every one once. -/
theorem pairwise_categories :
    ((categories issues).map Prod.fst).Pairwise fun a b => a < b ∧ ¬ b < a := by
  apply (Counting.tallied_countNames (issues.map CloudIssue.category)).ordered.imp
  intro category other hlt
  exact ⟨hlt, fun hgt => String.lt_irrefl category (String.lt_trans hlt hgt)⟩

theorem nodup_categories :
    ((categories issues).map Prod.fst).Nodup := by
  apply (pairwise_categories issues).imp
  rintro category _ ⟨hlt, hnot⟩ rfl
  exact hnot hlt

theorem mem_names_categories_iff
    (category : String) :
    category ∈ (categories issues).map Prod.fst ↔ category ∈ issues.map CloudIssue.category := by
  simp only [List.mem_map]
  constructor
  · rintro ⟨⟨_, count⟩, hentry, rfl⟩
    exact ((mem_categories_iff issues _ count).mp hentry).1
  · intro hissue
    exact ⟨(category, _), (mem_categories_iff issues category _).mpr ⟨hissue, rfl⟩, rfl⟩

/-- The costs of the counted categories add up to the cost of the issues. -/
theorem sum_categories :
    (((categories issues).map Prod.fst).map fun category =>
      min (5 / 2) (penaltyIn issues category)).sum = cost issues := by
  have hnames : ((categories issues).map Prod.fst).toFinset =
      (issues.map CloudIssue.category).toFinset := by
    ext category
    rw [List.mem_toFinset, List.mem_toFinset, mem_names_categories_iff]
  rw [← List.sum_toFinset _ (nodup_categories issues), hnames, cost]

theorem exactScore_eq_readiness :
    exactScore issues = readiness issues := by
  have hcost : ((categories issues).map fun (category, _) =>
      categoryPenalty issues category).sum = cost issues := by
    rw [← sum_categories, List.map_map]
    exact congrArg List.sum (List.map_congr_left fun entry _ => categoryPenalty_eq issues entry.1)
  rw [readiness, ← hcost, max_def]
  rfl

end ClosedForm

section Tenths

theorem penalty_mem_tenths
    (severity : Severity) :
    penalty severity ∈ tenths := by
  rw [AddSubgroup.mem_zmultiples_iff]
  cases severity with
  | low =>
      exact ⟨2, by norm_num [penalty]⟩
  | medium =>
      exact ⟨5, by norm_num [penalty]⟩
  | high =>
      exact ⟨10, by norm_num [penalty]⟩
  | critical =>
      exact ⟨20, by norm_num [penalty]⟩

theorem natCast_mem_tenths
    (n : Nat) :
    (n / 10 : Rat) ∈ tenths := by
  rw [AddSubgroup.mem_zmultiples_iff]
  exact ⟨n, by simp [div_eq_mul_inv]⟩

theorem penaltyIn_mem_tenths
    (issues : List CloudIssue)
    (category : String) :
    penaltyIn issues category ∈ tenths := by
  apply list_sum_mem
  intro cost hcost
  obtain ⟨issue, -, rfl⟩ := List.mem_map.mp hcost
  exact penalty_mem_tenths issue.severity

theorem cost_mem_tenths
    (issues : List CloudIssue) :
    cost issues ∈ tenths := by
  apply sum_mem
  intro category _
  rcases min_choice (5 / 2) (penaltyIn issues category) with hcap | hwhole
  · rw [hcap]
    convert natCast_mem_tenths 25 using 1
    norm_num
  · rw [hwhole]
    exact penaltyIn_mem_tenths issues category

theorem readiness_mem_tenths
    (issues : List CloudIssue) :
    readiness issues ∈ tenths := by
  rcases max_choice 0 (10 - cost issues) with hzero | hleft
  · rw [readiness, hzero]
    exact zero_mem tenths
  · rw [readiness, hleft]
    apply sub_mem _ (cost_mem_tenths issues)
    convert natCast_mem_tenths 100 using 1
    norm_num

theorem exists_readiness_eq
    (issues : List CloudIssue) :
    ∃ n : Nat, readiness issues = n / 10 := by
  obtain ⟨k, hk⟩ := AddSubgroup.mem_zmultiples_iff.mp (readiness_mem_tenths issues)
  rw [zsmul_eq_mul] at hk
  have hnonneg : (0 : Rat) ≤ k := by
    have hle : 0 ≤ readiness issues := le_max_left _ _
    linarith
  obtain ⟨n, rfl⟩ := Int.eq_ofNat_of_zero_le (show 0 ≤ k by exact_mod_cast hnonneg)
  refine ⟨n, ?_⟩
  rw [← hk]
  push_cast
  ring

theorem nearestTenth_exactScore
    (issues : List CloudIssue) :
    nearestTenth (exactScore issues) = exactScore issues := by
  obtain ⟨n, hn⟩ := exists_readiness_eq issues
  have hscaled : exactScore issues * 10 = (n : Int) := by
    rw [exactScore_eq_readiness, hn]
    push_cast
    ring
  rw [nearestTenth, hscaled, roundAway_intCast, ← hscaled]
  exact mul_div_cancel_right₀ _ (by norm_num)

end Tenths

/-! ## The sums of the program -/

section Rounded

variable (issues : List CloudIssue)

/-- The penalties of a category, added up one after another. -/
def charged (category : String) : Floating :=
  (issues.filter fun issue => decide (issue.category = category)).foldl
    (fun sum issue => sum + .ofRat (penalty issue.severity)) 0

/-- The program gathers the penalties of all categories in one pass; each comes to the same as in a
pass of its own. -/
theorem penalties_eq :
    penalties issues = ((categories issues).map Prod.fst).map fun category =>
      (category, charged issues category) := by
  have hcover : ∀ issue ∈ issues, issue.category ∈ (categories issues).map Prod.fst := by
    intro issue hissue
    rw [mem_names_categories_iff]
    exact List.mem_map_of_mem hissue
  have hpass := Counting.foldl_update (pairwise_categories issues) hcover 0
    fun issue (sum : Floating) => sum + .ofRat (penalty issue.severity)
  have hsome : ∀ category ∈ (categories issues).map Prod.fst,
      issues.filter (fun issue => decide (issue.category = category)) ≠ [] := by
    intro category hcategory
    obtain ⟨issue, hissue, rfl⟩ := List.mem_map.mp ((mem_names_categories_iff issues _).mp hcategory)
    exact List.ne_nil_of_mem (List.mem_filter.mpr ⟨hissue, decide_eq_true rfl⟩)
  calc penalties issues
      = _ := hpass
    _ = ((categories issues).map Prod.fst).filterMap fun category =>
          some (category, charged issues category) := by
        apply List.filterMap_congr
        intro category hcategory
        simp only [if_neg (hsome category hcategory), Option.map_some, charged]
    _ = _ := congrFun List.filterMap_eq_map _

/-- The cap is a number of the format. -/
theorem ofRat_categoryCap :
    Floating.ofRat categoryCap = .num (5 / 2) := by
  exact_mod_cast ofRat_of_holds (BinaryFormat.holds_natCast_half (n := 5) (by decide))

theorem totalPenalty_eq :
    totalPenalty issues = ((categories issues).map Prod.fst).foldl
      (fun sum category => sum + (charged issues category).minimum (.num (5 / 2)))
        .negativeZero := by
  rw [totalPenalty, penalties_eq, List.map_map, List.foldl_map, ofRat_categoryCap]
  rfl

/-- The sum of a category is followed up to the cap. -/
def penaltyTolerance : Tolerance where
  bound := 5 / 2
  least := 1 / 5
  most := 2
  error := grain
  slope := 1 / 2 ^ 43
  floor := 5 / 2 - 1 / 2 ^ 40
  bound_pos := by norm_num
  least_pos := by norm_num
  least_le := by norm_num
  error_nonneg := grain_pos.le
  slope_ge := by norm_num [grain]
  bound_lt := by norm_num
  floor_le := by norm_num
  holds := by
    convert BinaryFormat.holds_natCast_div_pow (n := 5 * 2 ^ 39 - 1) (k := 40) (by decide) (by decide)
      using 1
    norm_num

/-- The sum of all categories is followed up to ten points. -/
def categoryTolerance : Tolerance where
  bound := 10
  least := 1 / 5
  most := 5 / 2
  error := 1 / 2 ^ 40
  slope := 1 / 2 ^ 37
  floor := 10 - 1 / 2 ^ 33
  bound_pos := by norm_num
  least_pos := by norm_num
  least_le := by norm_num
  error_nonneg := by norm_num
  slope_ge := by norm_num [grain]
  bound_lt := by norm_num
  floor_le := by norm_num
  holds := by
    convert BinaryFormat.holds_natCast_div_pow (n := 10 * 2 ^ 33 - 1) (k := 33) (by decide)
      (by decide) using 1
    norm_num

theorem one_fifth_le_penalty
    (severity : Severity) :
    1 / 5 ≤ penalty severity := by
  cases severity <;> norm_num [penalty]

theorem penalty_le_two
    (severity : Severity) :
    penalty severity ≤ 2 := by
  cases severity <;> norm_num [penalty]

theorem term_penalty
    (severity : Severity) :
    penaltyTolerance.Term (penalty severity) (.ofRat (penalty severity)) := by
  have hleast := one_fifth_le_penalty severity
  have hmost := penalty_le_two severity
  exact ⟨Rounds.near (Or.inl rfl) (by linarith) (by linarith), hleast, hmost⟩

theorem follows_charged
    (category : String) :
    penaltyTolerance.Follows (penaltyIn issues category) (charged issues category) := by
  have hzero : penaltyTolerance.Follows 0 0 :=
    penaltyTolerance.follows_zero (by rw [zero_eq_num, value?])
  have hterms : ∀ issue ∈ issues.filter fun issue => decide (issue.category = category),
      penaltyTolerance.Term (penalty issue.severity) (.ofRat (penalty issue.severity)) :=
    fun issue _ => term_penalty issue.severity
  have hsum := hzero.foldl hterms
  rwa [zero_add] at hsum

variable {issues}

theorem one_fifth_le_penaltyIn
    {category : String}
    (hcategory : category ∈ issues.map CloudIssue.category) :
    1 / 5 ≤ penaltyIn issues category := by
  obtain ⟨issue, hissue, rfl⟩ := List.mem_map.mp hcategory
  have hmem : penalty issue.severity ∈
      (issues.filter fun other => other.category == issue.category).map
        fun issue => penalty issue.severity :=
    List.mem_map_of_mem (List.mem_filter.mpr ⟨hissue, beq_self_eq_true _⟩)
  refine (one_fifth_le_penalty issue.severity).trans (List.single_le_sum ?_ _ hmem)
  intro value hvalue
  obtain ⟨other, -, rfl⟩ := List.mem_map.mp hvalue
  linarith [one_fifth_le_penalty other.severity]

/-- The sum of a category that is cut at the cap. -/
theorem term_category
    {category : String}
    (hcategory : category ∈ issues.map CloudIssue.category) :
    categoryTolerance.Term (min (5 / 2) (penaltyIn issues category))
      ((charged issues category).minimum (.num (5 / 2))) := by
  have herror : categoryTolerance.error = penaltyTolerance.bound - penaltyTolerance.floor := by
    norm_num [categoryTolerance, penaltyTolerance]
  have hcap : categoryTolerance.least ≤ 5 / 2 := categoryTolerance.least_le
  refine ⟨?_, le_min hcap (one_fifth_le_penaltyIn hcategory), min_le_left _ _⟩
  rw [herror]
  exact (follows_charged issues category).near_minimum

variable (issues)

theorem follows_totalPenalty :
    categoryTolerance.Follows (cost issues) (totalPenalty issues) := by
  have hzero : categoryTolerance.Follows 0 .negativeZero := categoryTolerance.follows_zero rfl
  have hterms : ∀ category ∈ (categories issues).map Prod.fst,
      categoryTolerance.Term (min (5 / 2) (penaltyIn issues category))
        ((charged issues category).minimum (.num (5 / 2))) :=
    fun category hcategory => term_category ((mem_names_categories_iff issues category).mp hcategory)
  have hsum := hzero.foldl hterms
  rwa [zero_add, sum_categories, ← totalPenalty_eq] at hsum

theorem cost_nonneg :
    0 ≤ cost issues :=
  (follows_totalPenalty issues).nonneg

theorem isMultiple_totalPenalty :
    IsMultiple (totalPenalty issues) := by
  have hcap : IsMultiple (.num (5 / 2)) := by
    rw [← ofRat_categoryCap]
    exact isMultiple_ofRat (by norm_num [categoryCap])
  have hcharged : ∀ category, IsMultiple (charged issues category) := by
    intro category
    apply IsMultiple.foldl (isMultiple_of_value?_zero (by rw [zero_eq_num, value?]))
    intro issue _
    exact isMultiple_ofRat (by linarith [one_fifth_le_penalty issue.severity])
  rw [totalPenalty_eq]
  apply IsMultiple.foldl (isMultiple_of_value?_zero rfl)
  intro category _
  exact (hcharged category).minimum hcap

/-- What the program leaves of ten points is near what is left exactly. -/
theorem exists_clamp_eq :
    ∃ e, clamp 0 10 (10 - totalPenalty issues) = .num e ∧ 0 ≤ e ∧
      |e - readiness issues| ≤ 1 / 100 := by
  have hfollows := follows_totalPenalty issues
  rw [zero_eq_num, ten_eq_num]
  cases hvalue : (totalPenalty issues).value? with
  | some r =>
      obtain ⟨e, he, hnonneg, hclose⟩ :=
        clamp_sub (n := 10) (by decide) (isMultiple_totalPenalty issues) hvalue
      have hleft : |max 0 (10 - r) - readiness issues| ≤ 10 - (10 - 1 / 2 ^ 33) :=
        hfollows.abs_left_sub_le hvalue
      refine ⟨e, by exact_mod_cast he, hnonneg, ?_⟩
      calc |e - readiness issues|
          ≤ |e - max 0 (10 - r)| + |max 0 (10 - r) - readiness issues| := abs_sub_le _ _ _
        _ ≤ grain + (10 - (10 - 1 / 2 ^ 33)) := add_le_add (by exact_mod_cast hclose) hleft
        _ ≤ 1 / 100 := by norm_num [grain]
  | none =>
      obtain ⟨hinfinite, hreached⟩ := hfollows.infinite_of_value? hvalue
      have hten : (10 : Rat) ≤ cost issues := hreached
      have hnone : readiness issues = 0 := max_eq_left (by linarith)
      refine ⟨0, ?_, le_rfl, by rw [hnone]; norm_num⟩
      rw [hinfinite]
      exact_mod_cast clamp_sub_infinite 10

/-- The score that the program computes is the exact one, in whichever order it adds. -/
theorem heuristicScore_eq :
    heuristicScore issues = .ofRat (nearestTenth (exactScore issues)) := by
  obtain ⟨e, he, hnonneg, hclose⟩ := exists_clamp_eq issues
  obtain ⟨n, hn⟩ := exists_readiness_eq issues
  have hle : n ≤ 100 := by
    have hcost := cost_nonneg issues
    have hten : readiness issues ≤ 10 := max_le (by norm_num) (by linarith)
    rw [hn, div_le_iff₀ (by norm_num)] at hten
    norm_num at hten
    exact_mod_cast hten
  rw [nearestTenth_exactScore, exactScore_eq_readiness, heuristicScore, he]
  rw [hn] at hclose ⊢
  exact roundTenth_of_close hnonneg hle hclose

/-- In another order the penalties of a category come to another sum, but the score is the same. -/
example :
    let severities := [Severity.high, .medium, .low, .low, .low, .low]
    let issues := severities.map fun severity => CloudIssue.mk "Logging" severity "" "" none none
    totalPenalty issues ≠ totalPenalty issues.reverse ∧
      heuristicScore issues = heuristicScore issues.reverse := by
  decide +kernel

end Rounded

end Cloud
end CodeAudit
