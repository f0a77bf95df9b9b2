import CodeAudit.Migration.Analyze
import CodeAudit.Proofs.Json.Numbers
import Mathlib.Tactic.NormNum

/-!
# The estimate of the weeks

The weeks of a plan are the static estimate, which is at least one week, or its mean with the
estimate of the model, rounded to tenths.  An estimate of the model is used only if it is finite and
greater than zero.  The mean is then at least half a week, but it need not be finite: rounding to
tenths multiplies it by ten first, and five times the sum of both estimates may be beyond the range of
the format although the sum is not.  In JSON such a plan has no number of weeks.

**Results.**
* `notBelow_heuristicWeeks`, `within_heuristicWeeks`: the static estimate.
* `notBelow_meanWeeks`, `isFinite_meanWeeks`, `meanWeeks_eq_infinite`: the mean with an estimate of
  the model.
* `estimated_weeks_unless_overflow`: the weeks of the plan of a project.
* `huge_estimate_overflows`: an answer that leaves the plan without a number.
-/

namespace CodeAudit
namespace Migration

open Floating BinaryFormat Json

/-- The estimate in the answer of a model, if there is a usable one. -/
def estimateIn (answer : Option Outline) : Option Floating :=
  usableWeeks? (answer.getD .default)

/-- The counts that the static estimate rests on fit words of 64 bits. -/
structure CountsFit
    (complexity : Complexity)
    (detections : List Detection) : Prop where
  functions : complexity.totalFunctions < 2 ^ 64
  classes : complexity.totalClasses < 2 ^ 64
  affected : Counting.total (detections.map fun d => d.files.length) < 2 ^ 64

/-- The mean of both estimates, to tenths. -/
def meanWeeks (weeks estimate : Floating) : Floating :=
  ((weeks + estimate) / 2).roundTenth

/-- The static estimate is at least one week. -/
theorem notBelow_heuristicWeeks
    (complexity : Complexity)
    (detections : List Detection) :
    NotBelow 1 (heuristicWeeks complexity detections) := by
  have hten : double.Holds (10 : Nat) := holds_natCast (by decide)
  rw [heuristicWeeks, one_eq_num]
  exact (notBelow_maximum 1 _).roundTenth holds_one (by norm_num) hten

section Counts

/-- Small multiples of the bound of a word of 64 bits. -/
theorem holds_words
    {n : Nat}
    (hn : n < 2 ^ 5) :
    double.Holds (n * 2 ^ 64) :=
  holds_natCast_mul_pow hn (by decide) (by decide)

/-- A count of 64 bits over a small number. -/
theorem within_ofNat_div
    {n c : Nat}
    (hn : n < 2 ^ 64)
    (hc : 1 ≤ c) :
    Within 0 (2 ^ 64) (ofNat n / .num c) := by
  have hhigh : double.Holds (2 ^ 64) := by
    simpa using holds_words (n := 1) (by decide)
  have hle : (n : Rat) ≤ 2 ^ 64 := by exact_mod_cast hn.le
  have hpos : (1 : Rat) ≤ c := by exact_mod_cast hc
  obtain ⟨q, hvalue, hnonneg, hq⟩ :=
    Rounds.within (x := ofNat n) (Or.inl rfl) holds_zero hhigh (Nat.cast_nonneg n) hle
  apply (rounds_div hvalue rfl (by linarith)).within holds_zero hhigh
  · exact div_nonneg hnonneg (by linarith)
  · exact (div_le_self hnonneg hpos).trans hq

/-- With counts of 64 bits the static estimate is finite. -/
theorem within_heuristicWeeks
    {complexity : Complexity}
    {detections : List Detection}
    (hfit : CountsFit complexity detections) :
    Within 1 (3 * 2 ^ 64) (heuristicWeeks complexity detections) := by
  have hten : double.Holds (10 : Nat) := holds_natCast (by decide)
  have htwo : double.Holds (2 * 2 ^ 64) := by exact_mod_cast holds_words (n := 2) (by decide)
  have hthree : double.Holds (3 * 2 ^ 64) := by exact_mod_cast holds_words (n := 3) (by decide)
  have hthirty : double.Holds ((30 * 2 ^ 64 : Nat) : Rat) := by
    exact_mod_cast holds_words (n := 30) (by decide)
  have hfunctions := within_ofNat_div (c := 40) hfit.functions (by decide)
  have hclasses := within_ofNat_div (c := 15) hfit.classes (by decide)
  have haffected := within_ofNat_div (c := 10) hfit.affected (by decide)
  have hdeclared := hfunctions.add hclasses holds_zero htwo (by norm_num) (by norm_num)
  have hraw := hdeclared.add haffected holds_zero hthree (by norm_num) (by norm_num)
  have hraised := hraw.maximum 1 (by norm_num)
  have hforty : (40 : Floating) = .num (40 : Nat) := ofNat_eq_num (by decide)
  have hfifteen : (15 : Floating) = .num (15 : Nat) := ofNat_eq_num (by decide)
  rw [heuristicWeeks, one_eq_num, hforty, hfifteen, ten_eq_num]
  exact hraised.roundTenth holds_one hthree (by norm_num) (by norm_num) hten hthirty

end Counts

section Mean

variable {weeks estimate : Floating} {v : Rat}

/-- The mean is at least half a week. -/
theorem notBelow_meanWeeks
    (hweeks : NotBelow 1 weeks)
    (hestimate : NotBelow 0 estimate) :
    NotBelow (1 / 2) (meanWeeks weeks estimate) := by
  have hhalf : double.Holds (1 / 2) := by
    refine ⟨?_, 1, -1, by norm_num, by decide, by decide⟩
    exact (show (1 / 2 : Rat) < 1 by norm_num).trans holds_one.1
  have hfive : double.Holds (5 : Nat) := holds_natCast (by decide)
  have hsum : NotBelow 1 (weeks + estimate) := by
    simpa using hweeks.add hestimate (by simpa using holds_one)
  rw [meanWeeks, two_eq_num]
  exact (hsum.div_num two_pos hhalf).roundTenth hhalf (by norm_num) hfive

/-- Estimates up to this one leave the mean finite. -/
def greatestSafe : Rat := 3595 * 10 ^ 304

/-- Estimates from this one on do not. -/
def leastUnsafe : Rat := 3596 * 10 ^ 304

theorem holds_huge
    {n p : Nat}
    (hn : n < 2 ^ 24)
    (hp : p ≤ 1000) :
    double.Holds (n * 2 ^ p) :=
  holds_natCast_mul_pow hn (by decide) (by omega)

/-- Five times the sum of the estimates is still in the range of the format. -/
theorem isFinite_meanWeeks
    (hweeks : Within 1 (3 * 2 ^ 64) weeks)
    (hestimate : Within 0 greatestSafe estimate) :
    (meanWeeks weeks estimate).isFinite = true := by
  have hsumHolds : double.Holds (3355443 * 2 ^ 1000) := by
    exact_mod_cast holds_huge (n := 3355443) (p := 1000) (by decide) le_rfl
  have hmeanHolds : double.Holds (3355443 * 2 ^ 999) := by
    exact_mod_cast holds_huge (n := 3355443) (p := 999) (by decide) (by decide)
  have hscaledHolds : double.Holds ((16777215 * 2 ^ 1000 : Nat) : Rat) := by
    exact_mod_cast holds_huge (n := 16777215) (p := 1000) (by decide) le_rfl
  have hhalf : (3355443 * 2 ^ 1000 : Rat) / 2 = 3355443 * 2 ^ 999 := by
    rw [pow_succ, ← mul_assoc]
    exact mul_div_cancel_right₀ _ two_ne_zero
  have hsum : Within 0 (3355443 * 2 ^ 1000) (weeks + estimate) := by
    apply hweeks.add hestimate holds_zero hsumHolds (by norm_num)
    rw [greatestSafe]
    exact_mod_cast
      (show 3 * 2 ^ 64 + 3595 * 10 ^ 304 ≤ 3355443 * 2 ^ 1000 by decide +kernel)
  have hmean : Within 0 (3355443 * 2 ^ 999) ((weeks + estimate) / .num 2) :=
    hsum.div_num two_pos holds_zero hmeanHolds (by norm_num) hhalf.le
  have hscaled : (3355443 * 2 ^ 999 : Rat) * 10 = ((16777215 * 2 ^ 1000 : Nat) : Rat) := by
    rw [Nat.cast_mul, Nat.cast_pow, Nat.cast_ofNat, Nat.cast_ofNat,
      show (2 : Rat) ^ 1000 = 2 ^ 999 * 2 from pow_succ 2 999]
    generalize (2 : Rat) ^ 999 = power
    ring
  rw [meanWeeks, two_eq_num]
  exact (hmean.roundTenth (n := 0) holds_zero hmeanHolds (by norm_num) hscaled
    (by simpa using holds_zero) hscaledHolds).isFinite

/-- Five times the sum of the estimates is beyond the range of the format. -/
theorem meanWeeks_eq_infinite
    (hweeks : NotBelow 0 weeks)
    (hestimate : NotBelow leastUnsafe estimate) :
    meanWeeks weeks estimate = .infinite false := by
  have hsumHolds : double.Holds (3355444 * 2 ^ 1000) := by
    exact_mod_cast holds_huge (n := 3355444) (p := 1000) (by decide) le_rfl
  have hmeanHolds : double.Holds (3355444 * 2 ^ 999) := by
    exact_mod_cast holds_huge (n := 3355444) (p := 999) (by decide) (by decide)
  have hhalf : (3355444 * 2 ^ 1000 : Rat) / 2 = 3355444 * 2 ^ 999 := by
    rw [pow_succ, ← mul_assoc]
    exact mul_div_cancel_right₀ _ two_ne_zero
  have hbound : NotBelow (3355444 * 2 ^ 1000) estimate := by
    apply hestimate.mono
    rw [leastUnsafe]
    exact_mod_cast (show 3355444 * 2 ^ 1000 ≤ 3596 * 10 ^ 304 by decide +kernel)
  have hsum : NotBelow (3355444 * 2 ^ 1000) (weeks + estimate) := by
    simpa using hweeks.add hbound (by simpa using hsumHolds)
  have hmean : NotBelow (3355444 * 2 ^ 999) ((weeks + estimate) / .num 2) := by
    rw [← hhalf] at hmeanHolds ⊢
    exact hsum.div_num two_pos hmeanHolds
  have hscaled : (weeks + estimate) / .num 2 * .num 10 = .infinite false := by
    apply hmean.mul_num_eq_infinite (by norm_num)
    have hpower : (2 : Rat) ^ double.overflowExponent = ((2 ^ 1024 : Nat) : Rat) := by
      rw [Nat.cast_pow]
      exact zpow_natCast 2 1024
    rw [hpower]
    exact_mod_cast (show 2 ^ 1024 ≤ 3355444 * 2 ^ 999 * 10 by decide +kernel)
  rw [meanWeeks, roundTenth, two_eq_num, ten_eq_num, hscaled]
  rfl

end Mean

section Plan

theorem estimatedWeeks_plan
    (metadata : Metadata)
    (target : String)
    (detections : List Detection)
    (complexity : Complexity)
    (packaging : Option PackagingMethod)
    (answer : Option Outline) :
    (plan metadata target detections complexity packaging answer).estimatedWeeks =
      ((estimateIn answer).map (meanWeeks (heuristicWeeks complexity detections))).getD
        (heuristicWeeks complexity detections) := by
  rw [plan, estimateIn]
  cases usableWeeks? (answer.getD .default) <;> rfl

/-- An estimate that is used is finite and greater than zero. -/
theorem exists_of_estimateIn
    {answer : Option Outline}
    {estimate : Floating}
    (hestimate : estimateIn answer = some estimate) :
    ∃ v, estimate.value? = some v ∧ 0 < v := by
  rw [estimateIn, usableWeeks?, Option.filter_eq_some_iff, Bool.and_eq_true] at hestimate
  obtain ⟨-, hfinite, hpositive⟩ := hestimate
  obtain ⟨v, hvalue⟩ := Option.isSome_iff_exists.mp hfinite
  rw [less_eq_decide (x := 0) (a := 0) (by decide +kernel) hvalue, decide_eq_true_iff]
    at hpositive
  exact ⟨v, hvalue, hpositive⟩

theorem notBelow_estimatedWeeks
    (metadata : Metadata)
    (target : String)
    (detections : List Detection)
    (complexity : Complexity)
    (packaging : Option PackagingMethod)
    (answer : Option Outline) :
    NotBelow (1 / 2)
      (plan metadata target detections complexity packaging answer).estimatedWeeks := by
  have hweeks := notBelow_heuristicWeeks complexity detections
  rw [estimatedWeeks_plan]
  cases hestimate : estimateIn answer with
  | none =>
      exact hweeks.mono (by norm_num)
  | some estimate =>
      obtain ⟨v, hvalue, hpositive⟩ := exists_of_estimateIn hestimate
      exact notBelow_meanWeeks hweeks (Or.inr ⟨v, hvalue, hpositive.le⟩)

/-- The member of a saved plan is `null` exactly if the weeks are infinite. -/
theorem saved_weeks_eq_null_iff
    {planned : MigrationPlan}
    (hweeks : NotBelow (1 / 2) planned.estimatedWeeks) :
    (planned.toValue.member? "estimated_weeks").map Value.scalarText = some "null" ↔
      planned.estimatedWeeks = .infinite false := by
  have hmember :
      planned.toValue.member? "estimated_weeks" = some (.real planned.estimatedWeeks) := rfl
  rw [hmember, Option.map_some, Option.some_inj, Value.scalarText, numberText_eq_null_iff]
  rcases hweeks with hinfinite | ⟨q, hvalue, -⟩
  · simp [hinfinite, isFinite, value?]
  · constructor
    · intro hfinite
      rw [isFinite, hvalue] at hfinite
      cases hfinite
    · intro hinfinite
      rw [hinfinite] at hvalue
      cases hvalue

/--
The weeks of a plan are a positive number unless the estimate of the model is huge.

They are never below half a week, so neither zero nor negative nor anything but a number.  They are
finite if the model gives no usable estimate, or one up to `greatestSafe`; an estimate from
`leastUnsafe` on, although it is finite itself, makes them infinite, and then the saved plan has `null`
in their place.
-/
theorem estimated_weeks_unless_overflow
    (client : Option Client)
    (read : ReadFile)
    (earlier : List Prompt)
    (metadata : Metadata)
    (files : List FileRecord)
    (target : String)
    (package : Option Package) :
    let planned := (analyze client read earlier metadata files target package).result
    let answer :=
      (outline client earlier target planned.detectedFrameworks planned.complexity package).1
    NotBelow (1 / 2) planned.estimatedWeeks ∧
      ((planned.toValue.member? "estimated_weeks").map Value.scalarText = some "null" ↔
        planned.estimatedWeeks = .infinite false) ∧
      (CountsFit planned.complexity planned.detectedFrameworks →
        estimateIn answer = none → planned.estimatedWeeks.isFinite = true) ∧
      ∀ estimate v, estimateIn answer = some estimate → estimate.value? = some v →
        (CountsFit planned.complexity planned.detectedFrameworks →
          v ≤ greatestSafe → planned.estimatedWeeks.isFinite = true) ∧
        (leastUnsafe ≤ v → planned.estimatedWeeks = .infinite false) := by
  intro planned answer
  have hpositive : NotBelow (1 / 2) planned.estimatedWeeks :=
    notBelow_estimatedWeeks metadata target _ _ _ answer
  have hweeks : planned.estimatedWeeks = _ :=
    estimatedWeeks_plan metadata target planned.detectedFrameworks planned.complexity
      planned.packaging answer
  refine ⟨hpositive, saved_weeks_eq_null_iff hpositive, ?_, ?_⟩
  · intro hfit hnone
    rw [hweeks, hnone]
    exact (within_heuristicWeeks hfit).isFinite
  · intro estimate v hestimate hvalue
    obtain ⟨v', hvalue', hpos⟩ := exists_of_estimateIn hestimate
    obtain rfl : v' = v := Option.some.inj (hvalue'.symm.trans hvalue)
    rw [hweeks, hestimate]
    refine ⟨?_, ?_⟩
    · intro hfit hsafe
      exact isFinite_meanWeeks (within_heuristicWeeks hfit) ⟨v', hvalue, hpos.le, hsafe⟩
    · intro hunsafe
      have hstatic := notBelow_heuristicWeeks planned.complexity planned.detectedFrameworks
      exact meanWeeks_eq_infinite (hstatic.mono zero_le_one) (Or.inr ⟨v', hvalue, hunsafe⟩)

/-- A project without files, planned with one answer of a model. -/
def plannedWith (answer : String) : MigrationPlan :=
  (analyze (some (Client.scripted "scripted" [.ok answer])) (fun _ => none) [] default []
    "Quarkus" (some ⟨"x", .manual, false⟩)).result

/-- An answer with an estimate that fits, and one with an estimate near the end of the range. -/
def moderateAnswer : String := "\x7b\"estimated_weeks\": 8\x7d"

@[inherit_doc moderateAnswer]
def hugeAnswer : String := "\x7b\"estimated_weeks\": 1e308\x7d"

/-- Plans without an estimate of the model, with eight weeks, and with too many of them. -/
theorem sample_estimates_bound_weeks :
    (plannedWith "no plan").estimatedWeeks.isFinite = true ∧
      (estimateIn (Outline.ofAnswer? moderateAnswer)).bind value? = some 8 ∧
      (plannedWith moderateAnswer).estimatedWeeks = .num (9 / 2) ∧
      (plannedWith moderateAnswer).estimatedWeeks.isFinite = true ∧
      (plannedWith hugeAnswer).estimatedWeeks = .infinite false := by
  have hfitNone : CountsFit (plannedWith "no plan").complexity
      (plannedWith "no plan").detectedFrameworks :=
    ⟨by decide +kernel, by decide +kernel, by decide +kernel⟩
  have hfit : CountsFit (plannedWith moderateAnswer).complexity
      (plannedWith moderateAnswer).detectedFrameworks :=
    ⟨by decide +kernel, by decide +kernel, by decide +kernel⟩
  have hnone : estimateIn (Outline.ofAnswer? "no plan") = none := by decide +kernel
  have height : estimateIn (Outline.ofAnswer? moderateAnswer) = some (.num 8) := by
    decide +kernel
  have hsafe : (8 : Rat) ≤ greatestSafe := by decide +kernel
  have hused : (estimateIn (Outline.ofAnswer? hugeAnswer)).isSome = true := by decide +kernel
  have hunsafe :
      ((estimateIn (Outline.ofAnswer? hugeAnswer)).bind value?).all
        (fun v => decide (leastUnsafe ≤ v)) = true := by
    decide +kernel
  have hbounds : ∀ answer,
      (CountsFit (plannedWith answer).complexity (plannedWith answer).detectedFrameworks →
        estimateIn (Outline.ofAnswer? answer) = none →
          (plannedWith answer).estimatedWeeks.isFinite = true) ∧
      ∀ estimate v, estimateIn (Outline.ofAnswer? answer) = some estimate →
        estimate.value? = some v →
        (CountsFit (plannedWith answer).complexity (plannedWith answer).detectedFrameworks →
          v ≤ greatestSafe → (plannedWith answer).estimatedWeeks.isFinite = true) ∧
        (leastUnsafe ≤ v → (plannedWith answer).estimatedWeeks = .infinite false) := by
    intro answer
    exact (estimated_weeks_unless_overflow (some (Client.scripted "scripted" [.ok answer]))
      (fun _ => none) [] default [] "Quarkus" (some ⟨"x", .manual, false⟩)).2.2
  refine ⟨?_, by decide +kernel, by decide +kernel, ?_, ?_⟩
  · exact (hbounds "no plan").1 hfitNone hnone
  · exact ((hbounds moderateAnswer).2 (.num 8) 8 height rfl).1 hfit hsafe
  · obtain ⟨estimate, hestimate⟩ := Option.isSome_iff_exists.mp hused
    obtain ⟨v, hvalue, -⟩ := exists_of_estimateIn hestimate
    rw [hestimate, Option.bind_some, hvalue, Option.all_some, decide_eq_true_iff] at hunsafe
    exact ((hbounds hugeAnswer).2 estimate v hestimate hvalue).2 hunsafe

/-- A finite estimate greater than zero that leaves the saved plan without a number of weeks. -/
theorem huge_estimate_overflows :
    (∃ v, (estimateIn (Outline.ofAnswer? hugeAnswer)).bind value? = some v ∧ 0 < v) ∧
      (plannedWith hugeAnswer).estimatedWeeks = .infinite false ∧
      ((plannedWith hugeAnswer).toValue.member? "estimated_weeks").map Value.scalarText =
        some "null" := by
  refine ⟨?_, by decide +kernel, by decide +kernel⟩
  have hused : (estimateIn (Outline.ofAnswer? hugeAnswer)).isSome = true := by decide +kernel
  obtain ⟨estimate, hestimate⟩ := Option.isSome_iff_exists.mp hused
  obtain ⟨v, hvalue, hpositive⟩ := exists_of_estimateIn hestimate
  exact ⟨v, by rw [hestimate]; exact hvalue, hpositive⟩

end Plan

end Migration
end CodeAudit
