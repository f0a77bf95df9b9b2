import CodeAudit.Finding.Basic
import Mathlib.Data.List.Basic

/-!
# Counts by severity and the worst severity

Counting goes through the severities one by one and adds one to one of four numbers; the worst
severity is carried along in the same way.  Both depend only on how often each severity occurs, so
neither depends on the order.

**Results.**
* `get_tally`, `get_tally_map`: each count is a number of occurrences.
* `total_tally`: nothing is counted twice and nothing is left out.
* `worst?_eq_some_iff`: the worst severity occurs, and none that occurs is above it.
* `tally_perm`, `worst?_perm`: the order does not matter.
-/

namespace CodeAudit
namespace SeverityCounts

/-- Counts that agree in every severity are the same. -/
theorem ext_get
    {counts counts' : SeverityCounts}
    (hget : ∀ severity, counts.get severity = counts'.get severity) :
    counts = counts' := by
  cases counts
  cases counts'
  simp only [mk.injEq]
  exact ⟨hget .critical, hget .high, hget .medium, hget .low⟩

/-- One severity is counted once more. -/
theorem get_add
    (counts : SeverityCounts)
    (added severity : Severity) :
    (counts.add added).get severity =
      counts.get severity + if added = severity then 1 else 0 := by
  cases added <;> cases severity <;> rfl

theorem get_foldl_add
    (severities : List Severity)
    (counts : SeverityCounts)
    (severity : Severity) :
    (severities.foldl add counts).get severity =
      counts.get severity + severities.count severity := by
  induction severities generalizing counts with
  | nil =>
      rfl
  | cons first rest ih =>
      rw [List.foldl_cons, ih, get_add, List.count_cons]
      simp only [beq_iff_eq]
      omega

/-- Each count says how often its severity occurs. -/
theorem get_tally
    (severities : List Severity)
    (severity : Severity) :
    (tally severities).get severity = severities.count severity := by
  have hzero : zero.get severity = 0 := by
    cases severity <;> rfl
  rw [tally, get_foldl_add, hzero, Nat.zero_add]

/-- Each count says how many things have its severity. -/
theorem get_tally_map
    {α : Type}
    (severityOf : α → Severity)
    (things : List α)
    (severity : Severity) :
    (tally (things.map severityOf)).get severity =
      things.countP fun thing => decide (severityOf thing = severity) := by
  rw [get_tally, List.count, List.countP_map]
  rfl

theorem total_add
    (counts : SeverityCounts)
    (added : Severity) :
    (counts.add added).total = counts.total + 1 := by
  cases added <;> simp only [add, total] <;> omega

theorem total_foldl_add
    (severities : List Severity)
    (counts : SeverityCounts) :
    (severities.foldl add counts).total = counts.total + severities.length := by
  induction severities generalizing counts with
  | nil =>
      rfl
  | cons first rest ih =>
      rw [List.foldl_cons, ih, total_add, List.length_cons]
      omega

/-- Nothing is counted twice and nothing is left out. -/
theorem total_tally
    (severities : List Severity) :
    (tally severities).total = severities.length := by
  rw [tally, total_foldl_add]
  exact Nat.zero_add _

theorem tally_perm
    {severities severities' : List Severity}
    (hperm : severities.Perm severities') :
    tally severities = tally severities' := by
  apply ext_get
  intro severity
  rw [get_tally, get_tally, hperm.count_eq]

end SeverityCounts

namespace Severity

theorem level_injective
    {a b : Severity}
    (hlevel : a.level = b.level) :
    a = b := by
  revert hlevel
  cases a <;> cases b <;> decide

/-- The worse of two severities is above both. -/
theorem level_worse
    (a b : Severity) :
    (worse a b).level = max a.level b.level := by
  unfold worse
  split <;> omega

theorem worse_eq_or
    (a b : Severity) :
    worse a b = a ∨ worse a b = b := by
  unfold worse
  split
  · exact Or.inr rfl
  · exact Or.inl rfl

/-- The severity carried along occurs, and nothing seen so far is above it. -/
theorem foldl_worse
    (first : Severity)
    (rest : List Severity) :
    rest.foldl worse first ∈ first :: rest ∧
      ∀ other ∈ first :: rest, other.level ≤ (rest.foldl worse first).level := by
  induction rest generalizing first with
  | nil =>
      simp
  | cons next rest ih =>
      obtain ⟨hmem, hbound⟩ := ih (worse first next)
      have hworse := hbound _ List.mem_cons_self
      rw [level_worse] at hworse
      rw [List.foldl_cons]
      constructor
      · rcases List.mem_cons.mp hmem with heq | hrest
        · rw [heq]
          rcases worse_eq_or first next with h | h <;> simp [h]
        · exact List.mem_cons_of_mem _ (List.mem_cons_of_mem _ hrest)
      · intro other hother
        rcases List.mem_cons.mp hother with rfl | hother
        · omega
        · rcases List.mem_cons.mp hother with rfl | hrest
          · omega
          · exact hbound other (List.mem_cons_of_mem _ hrest)

theorem worst?_eq_none_iff
    (severities : List Severity) :
    worst? severities = none ↔ severities = [] := by
  cases severities <;> simp [worst?]

/-- The worst severity of a list occurs in it, and none that occurs is above it. -/
theorem worst?_eq_some_iff
    (severities : List Severity)
    (severity : Severity) :
    worst? severities = some severity ↔
      severity ∈ severities ∧ ∀ other ∈ severities, other.level ≤ severity.level := by
  cases severities with
  | nil =>
      simp [worst?]
  | cons first rest =>
      obtain ⟨hmem, hbound⟩ := foldl_worse first rest
      rw [worst?, Option.some.injEq]
      constructor
      · rintro rfl
        exact ⟨hmem, hbound⟩
      · rintro ⟨hoccurs, habove⟩
        exact level_injective
          (Nat.le_antisymm (habove _ hmem) (hbound severity hoccurs))

theorem worst?_perm
    {severities severities' : List Severity}
    (hperm : severities.Perm severities') :
    worst? severities = worst? severities' := by
  apply Option.ext
  intro severity
  rw [worst?_eq_some_iff, worst?_eq_some_iff]
  simp only [hperm.mem_iff]

end Severity
end CodeAudit
