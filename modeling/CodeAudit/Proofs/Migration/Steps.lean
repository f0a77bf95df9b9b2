import CodeAudit.Migration.Analyze
import CodeAudit.Proofs.Sorting

/-!
# The steps of a plan

A plan begins with the two steps that lay the foundation; the detected frameworks and the model add
theirs, and all of them are sorted by priority.  The sort is stable, so within a priority the static
steps stand in front of those of the model, and since the first static step is critical, it is the
first step of every plan.

**Results.**
* `steps_plan`: the steps are the groups of the priorities, the most urgent one first.
* `PlannedStep.becomes_toStep`: what a step of the model becomes.
* `steps_merged`: all of it for the steps of a plan.
-/

namespace CodeAudit

namespace Priority

theorem rank_injective
    {p q : Priority}
    (heq : p.rank = q.rank) :
    p = q := by
  cases p <;> cases q <;> simp_all [rank]

theorem mem_urgentFirst
    (p : Priority) :
    p ∈ urgentFirst := by
  cases p <;> decide

theorem pairwise_rank_urgentFirst :
    (urgentFirst.map rank).Pairwise (· < ·) := by
  decide

end Priority

namespace Migration

/-- A step of a plan says what a step of the model says. -/
structure PlannedStep.Becomes
    (planned : PlannedStep)
    (step : MigrationStep) : Prop where
  title : step.title = planned.title
  description : step.description = planned.description
  priority : step.priority = .ofLabel planned.priority
  /-- The category and the effort are never blank, and they are kept where they are not. -/
  categorised : Text.isBlankText step.category = false
  category : Text.isBlankText planned.category = false → step.category = planned.category
  estimated : Text.isBlankText step.effort = false
  effort : Text.isBlankText planned.effort = false → step.effort = planned.effort

/-- The steps of a priority in a list. -/
def stepsOf
    (priority : Priority)
    (steps : List MigrationStep) : List MigrationStep :=
  steps.filter fun step => decide (step.priority = priority)

/-- The steps that the answer of a model adds to a plan, none without an answer. -/
def addedSteps (answer : Option Outline) : List MigrationStep :=
  (answer.getD .default).steps.map PlannedStep.toStep

theorem PlannedStep.becomes_toStep
    (planned : PlannedStep) :
    planned.Becomes planned.toStep where
  title := rfl
  description := rfl
  priority := by
    simp only [toStep]
  categorised := by
    cases hblank : Text.isBlankText planned.category with
    | false =>
        simp [toStep, hblank]
    | true =>
        simp only [toStep, hblank, if_true]
        decide
  category hcategory := by
    simp [toStep, hcategory]
  estimated := by
    cases hblank : Text.isBlankText planned.effort with
    | false =>
        simp [toStep, hblank]
    | true =>
        simp only [toStep, hblank, if_true]
        decide
  effort heffort := by
    simp [toStep, heffort]

/-- Sorting by rank puts the groups of the priorities one after another. -/
theorem mergeSort_rank
    (steps : List MigrationStep) :
    (steps.mergeSort fun a b => decide (a.priority.rank ≤ b.priority.rank)) =
      Priority.urgentFirst.flatMap fun priority => stepsOf priority steps := by
  have hgroups := Sorting.mergeSort_eq_flatMap_filter
    (fun step : MigrationStep => step.priority.rank) steps Priority.pairwise_rank_urgentFirst
    fun step _ => List.mem_map_of_mem (Priority.mem_urgentFirst step.priority)
  rw [hgroups, List.flatMap_map]
  apply List.flatMap_congr
  intro priority _
  apply List.filter_congr
  intro step _
  rw [decide_eq_decide]
  exact ⟨Priority.rank_injective, congrArg Priority.rank⟩

theorem steps_plan
    (metadata : Metadata)
    (target : String)
    (detections : List Detection)
    (complexity : Complexity)
    (packaging : Option PackagingMethod)
    (answer : Option Outline) :
    (plan metadata target detections complexity packaging answer).steps =
      Priority.urgentFirst.flatMap fun priority =>
        stepsOf priority (heuristicSteps detections target) ++
          stepsOf priority (addedSteps answer) := by
  have hsorted := mergeSort_rank (heuristicSteps detections target ++ addedSteps answer)
  simp only [stepsOf, List.filter_append] at hsorted
  exact hsorted

/--
The steps of a plan are the static ones and those of the model, merged by priority.

None is lost and none is doubled.  They stand from the most urgent to the least, and those of one
priority in the order they had, the static ones in front; so the first step is always the one that
sets up the new project.  A step of the model keeps its words, a blank category or effort excepted.
-/
theorem steps_merged
    (metadata : Metadata)
    (target : String)
    (detections : List Detection)
    (complexity : Complexity)
    (packaging : Option PackagingMethod)
    (answer : Option Outline) :
    let steps := (plan metadata target detections complexity packaging answer).steps
    let static := heuristicSteps detections target
    steps.Perm (static ++ addedSteps answer) ∧
      static = [skeletonStep target, testingStep] ++ detections.map (detectionStep target) ∧
      steps.Pairwise (fun a b => a.priority.rank ≤ b.priority.rank) ∧
      (steps = Priority.urgentFirst.flatMap fun priority =>
        stepsOf priority static ++ stepsOf priority (addedSteps answer)) ∧
      steps.head? = some (skeletonStep target) ∧
      List.Forall₂ PlannedStep.Becomes (answer.getD .default).steps (addedSteps answer) := by
  intro steps static
  have hgroups : steps = _ := steps_plan metadata target detections complexity packaging answer
  have hsorted : steps.Pairwise fun a b => a.priority.rank ≤ b.priority.rank :=
    Sorting.pairwise_mergeSort_rank (fun step : MigrationStep => step.priority.rank) _
  refine ⟨List.mergeSort_perm _ _, rfl, hsorted, hgroups, ?_, ?_⟩
  · rw [hgroups]
    rfl
  · rw [addedSteps, List.forall₂_map_right_iff]
    exact List.forall₂_same.mpr fun planned _ => planned.becomes_toStep

end Migration
end CodeAudit
