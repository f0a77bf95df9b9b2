import CodeAudit.Proofs.Cloud.ExactScore
import Mathlib.Algebra.Order.BigOperators.Group.Finset

/-!
# What the issues cost

The program computes the exact score, which is what the cost of the issues leaves of ten points.  A
category without issues costs nothing, so the sum of the costs may as well be taken over more
categories, and the costs of two lists of issues are compared category by category.  All comparisons of
scores follow from this.

**Results.**
* `cost_le_cost`, `cost_le_cost_without`: costs are compared by category.
* `score_by_category`: all of it, with what it means for issues that are added, raised or removed.
-/

namespace CodeAudit
namespace Cloud

open Floating

section Comparison

variable {issues issues' : List CloudIssue}

theorem penalty_nonneg
    (severity : Severity) :
    0 ≤ penalty severity := by
  cases severity <;> norm_num [penalty]

theorem penalty_mono
    {severity severity' : Severity}
    (hle : severity.level ≤ severity'.level) :
    penalty severity ≤ penalty severity' := by
  cases severity <;> cases severity' <;> norm_num [penalty, Severity.level] at *

theorem penaltyIn_append
    (xs ys : List CloudIssue)
    (category : String) :
    penaltyIn (xs ++ ys) category = penaltyIn xs category + penaltyIn ys category := by
  rw [penaltyIn, List.filter_append, List.map_append, List.sum_append]
  rfl

theorem penaltyIn_singleton
    (issue : CloudIssue)
    (category : String) :
    penaltyIn [issue] category = if issue.category = category then penalty issue.severity else 0 := by
  by_cases hcategory : issue.category = category <;> simp [penaltyIn, hcategory]

theorem penaltyIn_of_absent
    {category : String}
    (habsent : category ∉ issues.map CloudIssue.category) :
    penaltyIn issues category = 0 := by
  have hnone : (issues.filter fun issue => issue.category == category) = [] := by
    rw [List.filter_eq_nil_iff]
    intro issue hissue hcategory
    rw [beq_iff_eq] at hcategory
    exact habsent (hcategory ▸ List.mem_map_of_mem hissue)
  rw [penaltyIn, hnone, List.map_nil, List.sum_nil]

/-- A category without issues costs nothing, so it may be among those that are added up. -/
theorem cost_eq_sum
    {all : Finset String}
    (hall : (issues.map CloudIssue.category).toFinset ⊆ all) :
    cost issues = ∑ category ∈ all, min (5 / 2) (penaltyIn issues category) := by
  apply Finset.sum_subset hall
  intro category _ habsent
  rw [List.mem_toFinset] at habsent
  rw [penaltyIn_of_absent habsent]
  norm_num

/-- Issues that do not cost more in any category do not cost more. -/
theorem cost_le_cost
    (hle : ∀ category, penaltyIn issues category ≤ penaltyIn issues' category) :
    cost issues ≤ cost issues' := by
  let all := (issues.map CloudIssue.category).toFinset ∪ (issues'.map CloudIssue.category).toFinset
  have hleft : (issues.map CloudIssue.category).toFinset ⊆ all := Finset.subset_union_left
  have hright : (issues'.map CloudIssue.category).toFinset ⊆ all := Finset.subset_union_right
  rw [cost_eq_sum hleft, cost_eq_sum hright]
  exact Finset.sum_le_sum fun category _ => min_le_min_left _ (hle category)

theorem readiness_le_readiness
    (hle : ∀ category, penaltyIn issues category ≤ penaltyIn issues' category) :
    readiness issues' ≤ readiness issues :=
  max_le_max le_rfl (sub_le_sub_left (cost_le_cost hle) 10)

theorem penaltyIn_le_of_sublist
    (hsublist : issues.Sublist issues')
    (category : String) :
    penaltyIn issues category ≤ penaltyIn issues' category := by
  apply ((hsublist.filter _).map _).sum_le_sum
  intro value hvalue
  obtain ⟨issue, -, rfl⟩ := List.mem_map.mp hvalue
  exact penalty_nonneg issue.severity

/-- A category and a severity are all that an issue has to do with its cost. -/
theorem penaltyIn_eq_of_perm
    (hperm : (issues.map fun issue => (issue.category, issue.severity)).Perm
      (issues'.map fun issue => (issue.category, issue.severity)))
    (category : String) :
    penaltyIn issues category = penaltyIn issues' category := by
  have hpairs : ∀ xs : List CloudIssue, penaltyIn xs category =
      (((xs.map fun issue => (issue.category, issue.severity)).filter
        fun pair => pair.1 == category).map fun pair => penalty pair.2).sum := by
    intro xs
    rw [List.filter_map, List.map_map]
    rfl
  rw [hpairs, hpairs]
  exact ((hperm.filter _).map _).sum_eq

theorem penaltyIn_le_of_raised
    (before after : List CloudIssue)
    (issue : CloudIssue)
    {severity : Severity}
    (hle : issue.severity.level ≤ severity.level)
    (category : String) :
    penaltyIn (before ++ issue :: after) category ≤
      penaltyIn (before ++ { issue with severity := severity } :: after) category := by
  have hsplit : ∀ issue : CloudIssue, penaltyIn (before ++ issue :: after) category =
      penaltyIn before category + (penaltyIn [issue] category + penaltyIn after category) := by
    intro issue
    rw [penaltyIn_append, ← List.singleton_append, penaltyIn_append]
  rw [hsplit, hsplit, penaltyIn_singleton, penaltyIn_singleton]
  apply add_le_add_right
  apply add_le_add_left
  split
  · exact penalty_mono hle
  · exact le_rfl

/-- The issues of one category cost at most the cap. -/
theorem cost_le_cost_without
    (issues : List CloudIssue)
    (category : String) :
    cost issues ≤ cost (issues.filter fun issue => issue.category != category) + 5 / 2 := by
  let others := issues.filter fun issue => issue.category != category
  let all := insert category (issues.map CloudIssue.category).toFinset
  have hmem : category ∈ all := Finset.mem_insert_self _ _
  have hissues : (issues.map CloudIssue.category).toFinset ⊆ all := Finset.subset_insert _ _
  have hothers : (others.map CloudIssue.category).toFinset ⊆ all := by
    apply Finset.Subset.trans _ hissues
    intro other hother
    rw [List.mem_toFinset] at hother ⊢
    exact (List.filter_sublist.map _).subset hother
  have hrest : ∀ other ∈ all.erase category,
      penaltyIn others other = penaltyIn issues other := by
    intro other hother
    have hne : other ≠ category := Finset.ne_of_mem_erase hother
    rw [penaltyIn, penaltyIn, List.filter_filter]
    congr 2
    apply List.filter_congr
    intro issue _
    by_cases hissue : issue.category = other <;> simp [hissue, hne]
  rw [cost_eq_sum hissues, cost_eq_sum hothers, ← Finset.add_sum_erase all _ hmem,
    ← Finset.add_sum_erase all _ hmem]
  have hsums : ∑ other ∈ all.erase category, min (5 / 2) (penaltyIn others other) =
      ∑ other ∈ all.erase category, min (5 / 2) (penaltyIn issues other) :=
    Finset.sum_congr rfl fun other hother => by rw [hrest other hother]
  have hremoved : min (5 / 2) (penaltyIn others category) = 0 := by
    rw [penaltyIn_of_absent (by simp [others]), min_eq_right (by norm_num)]
  have hcap : min (5 / 2) (penaltyIn issues category) ≤ 5 / 2 := min_le_left _ _
  rw [hsums, hremoved]
  linarith

/-- A score that is not less is not less as a number of the format, either. -/
theorem atLeast_heuristicScore
    (hle : readiness issues' ≤ readiness issues) :
    (heuristicScore issues).atLeast (heuristicScore issues') = true := by
  rw [heuristicScore_eq, heuristicScore_eq, nearestTenth_exactScore, nearestTenth_exactScore,
    exactScore_eq_readiness, exactScore_eq_readiness]
  exact (atMost_ofRat (le_max_left _ _) hle).atLeast

end Comparison

/--
The score of issues is what their cost leaves of ten points, where each category costs the sum of its
penalties, up to the cap.

It is a multiple of a tenth, so rounding it to tenths does not change it, and the score that is
returned is the number nearest to it.  Only the categories and the severities of the issues matter, in
any order.  Issues that are added and an issue that is raised never raise the score, and without the
issues of one category it is not lower, and higher by at most two and a half.
-/
theorem score_by_category
    (issues : List CloudIssue) :
    (penalty .critical = 2 ∧ penalty .high = 1 ∧ penalty .medium = 1 / 2 ∧ penalty .low = 1 / 5) ∧
      exactScore issues =
        max 0 (10 - ∑ category ∈ (issues.map CloudIssue.category).toFinset,
          min (5 / 2) (penaltyIn issues category)) ∧
      (∃ n : Nat, exactScore issues = n / 10) ∧
      nearestTenth (exactScore issues) = exactScore issues ∧
      heuristicScore issues = .ofRat (exactScore issues) ∧
      (∀ issues' : List CloudIssue,
        (issues.map fun issue => (issue.category, issue.severity)).Perm
            (issues'.map fun issue => (issue.category, issue.severity)) →
          exactScore issues' = exactScore issues ∧
            heuristicScore issues' = heuristicScore issues) ∧
      (∀ more : List CloudIssue,
        issues.Sublist more →
          exactScore more ≤ exactScore issues ∧
            (heuristicScore issues).atLeast (heuristicScore more) = true) ∧
      (∀ before issue after severity,
        issues = before ++ issue :: after → issue.severity.level ≤ severity.level →
          let raised := before ++ { issue with severity := severity } :: after
          exactScore raised ≤ exactScore issues ∧
            (heuristicScore issues).atLeast (heuristicScore raised) = true) ∧
      ∀ category,
        let others := issues.filter fun issue => issue.category != category
        exactScore issues ≤ exactScore others ∧ exactScore others ≤ exactScore issues + 5 / 2 := by
  have hreturned : ∀ xs, heuristicScore xs = .ofRat (exactScore xs) := by
    intro xs
    rw [heuristicScore_eq, nearestTenth_exactScore]
  refine ⟨⟨rfl, rfl, rfl, rfl⟩, exactScore_eq_readiness issues, ?_, nearestTenth_exactScore issues,
    hreturned issues, ?_, ?_, ?_, ?_⟩
  · rw [exactScore_eq_readiness]
    exact exists_readiness_eq issues
  · intro issues' hperm
    have hpenalties := penaltyIn_eq_of_perm hperm
    have hexact : exactScore issues' = exactScore issues := by
      rw [exactScore_eq_readiness, exactScore_eq_readiness]
      exact le_antisymm (readiness_le_readiness fun category => (hpenalties category).le)
        (readiness_le_readiness fun category => (hpenalties category).ge)
    rw [hreturned, hreturned, hexact]
    exact ⟨rfl, rfl⟩
  · intro more hsublist
    have hle := readiness_le_readiness (penaltyIn_le_of_sublist hsublist)
    rw [exactScore_eq_readiness, exactScore_eq_readiness]
    exact ⟨hle, atLeast_heuristicScore hle⟩
  · rintro before issue after severity rfl hlevel raised
    have hle := readiness_le_readiness (penaltyIn_le_of_raised before after issue hlevel)
    rw [exactScore_eq_readiness, exactScore_eq_readiness]
    exact ⟨hle, atLeast_heuristicScore hle⟩
  · intro category others
    rw [exactScore_eq_readiness, exactScore_eq_readiness]
    refine ⟨readiness_le_readiness (penaltyIn_le_of_sublist List.filter_sublist), ?_⟩
    have hcost := cost_le_cost_without issues category
    have hleft : 10 - cost issues ≤ readiness issues := le_max_right _ _
    have hzero : 0 ≤ readiness issues := le_max_left _ _
    apply max_le
    · linarith
    · linarith

/-- An issue of a sample assessment. -/
def sampleIssue
    (category : String)
    (severity : Severity) : CloudIssue :=
  ⟨category, severity, "", "", none, none⟩

/--
Two critical issues of one category cost the cap.  A mild issue of another category costs more when it
is raised, and without the first category there are two and a half points more.
-/
theorem capped_issues_scored :
    let capped := [sampleIssue "Security" .critical, sampleIssue "Security" .critical]
    let issues := capped ++ [sampleIssue "Logging" .low]
    let raised := capped ++ [sampleIssue "Logging" .medium]
    let others := issues.filter fun issue => issue.category != "Security"
    exactScore issues = 73 / 10 ∧
      exactScore raised = 7 ∧
      exactScore others = 98 / 10 ∧
      exactScore issues.reverse = exactScore issues ∧
      (heuristicScore issues).atLeast (heuristicScore raised) = true ∧
      (heuristicScore others).atLeast (heuristicScore issues) = true ∧
      exactScore others ≤ exactScore issues + 5 / 2 := by
  intro capped issues raised others
  obtain ⟨-, -, -, -, -, hordered, -, hraise, hremoved⟩ := score_by_category issues
  obtain ⟨-, -, -, -, -, -, hadded, -, -⟩ := score_by_category others
  have hreverse : (issues.map fun issue => (issue.category, issue.severity)).Perm
      (issues.reverse.map fun issue => (issue.category, issue.severity)) :=
    (List.reverse_perm issues).symm.map _
  have hlevel : Severity.low.level ≤ Severity.medium.level := by
    decide
  have hscores := (hraise capped (sampleIssue "Logging" .low) [] .medium rfl hlevel).2
  have hraised : capped ++ [{ sampleIssue "Logging" .low with severity := .medium }] = raised := rfl
  rw [hraised] at hscores
  have hexact : exactScore issues = 73 / 10 ∧ exactScore raised = 7 ∧ exactScore others = 98 / 10 := by
    decide +kernel
  exact ⟨hexact.1, hexact.2.1, hexact.2.2, (hordered _ hreverse).1, hscores,
    (hadded issues List.filter_sublist).2, (hremoved "Security").2⟩

end Cloud
end CodeAudit
