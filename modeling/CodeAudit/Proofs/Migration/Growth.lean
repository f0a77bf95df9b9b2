import CodeAudit.Proofs.Floating.Monotone
import CodeAudit.Proofs.Migration.FileOrder
import CodeAudit.Proofs.Migration.Weeks
import Mathlib.Algebra.Order.BigOperators.Group.List

/-!
# A file that is added leaves the rest of a plan in place

What is read of more files contains what is read of fewer, in the same order, whether an added file
can be read or not.  So the sums grow, a framework that was met is still met, in the files in which
it was met before, and the estimate of the weeks, which is computed by monotone operations from such
sums, does not shrink.  The detections may be listed in another order, since they are sorted by
sums; the number of files that they affect does not depend on this order.

**Results.**
* `Complexity.of_grows`, `Detection.all_grows`: the sums and the detections.
* `affected_all`, `atMost_heuristicWeeks`: the estimate of the weeks.
* `analyze_grows`: all of it for a file that is inserted.
-/

namespace CodeAudit

/-- No sum of a complexity is greater than in another one. -/
structure Complexity.Within
    (c c' : Complexity) : Prop where
  filesParsed : c.filesParsed ≤ c'.filesParsed
  totalLines : c.totalLines ≤ c'.totalLines
  totalFunctions : c.totalFunctions ≤ c'.totalFunctions
  totalClasses : c.totalClasses ≤ c'.totalClasses
  totalImports : c.totalImports ≤ c'.totalImports
  totalBranches : c.totalBranches ≤ c'.totalBranches

/-- The framework of a detection is met in a further one at least as often, and in the same files. -/
structure Detection.Grows
    (d d' : Detection) : Prop where
  framework : d'.framework = d.framework
  name : d'.name = d.name
  occurrences : d.occurrences ≤ d'.occurrences
  files : d.files.Sublist d'.files

namespace Counting

theorem total_le_of_sublist
    {counts counts' : List Nat}
    (hsublist : counts.Sublist counts') :
    total counts ≤ total counts' := by
  rw [total_eq_sum, total_eq_sum]
  exact hsublist.sum_le_sum fun count _ => Nat.zero_le count

end Counting

namespace Complexity

/-- The sums of a complexity, also of no files at all. -/
theorem of_sums
    (structures : List FileStructure) :
    let sum := fun f : FileStructure → Nat => Counting.total (structures.map f)
    (of structures).filesParsed = structures.length ∧
      (of structures).totalLines = sum FileStructure.lines ∧
      (of structures).totalFunctions = sum FileStructure.functions ∧
      (of structures).totalClasses = sum FileStructure.classes ∧
      (of structures).totalImports = sum FileStructure.imports ∧
      (of structures).totalBranches = sum FileStructure.branches := by
  cases structures with
  | nil =>
      exact ⟨rfl, rfl, rfl, rfl, rfl, rfl⟩
  | cons first rest =>
      exact ⟨rfl, rfl, rfl, rfl, rfl, rfl⟩

theorem of_grows
    {structures structures' : List FileStructure}
    (hsublist : structures.Sublist structures') :
    Within (of structures) (of structures') := by
  obtain ⟨hfiles, hlines, hfunctions, hclasses, himports, hbranches⟩ := of_sums structures
  obtain ⟨hfiles', hlines', hfunctions', hclasses', himports', hbranches'⟩ := of_sums structures'
  have htotal : ∀ f : FileStructure → Nat,
      Counting.total (structures.map f) ≤ Counting.total (structures'.map f) :=
    fun f => Counting.total_le_of_sublist (hsublist.map f)
  constructor
  · rw [hfiles, hfiles']
    exact hsublist.length_le
  · rw [hlines, hlines']
    exact htotal _
  · rw [hfunctions, hfunctions']
    exact htotal _
  · rw [hclasses, hclasses']
    exact htotal _
  · rw [himports, himports']
    exact htotal _
  · rw [hbranches, hbranches']
    exact htotal _

end Complexity

namespace Detection

section Sources

variable {sources sources' : List (String × String)}
variable (hsublist : sources.Sublist sources')

include hsublist

theorem metIn_sublist
    (framework : Framework) :
    (metIn framework sources).Sublist (metIn framework sources') := by
  exact (hsublist.map _).filter _

/-- A detected framework is detected in more sources, too. -/
theorem of?_grows
    {framework : Framework}
    {d : Detection}
    (hd : of? sources framework = some d) :
    ∃ d', of? sources' framework = some d' ∧ d.Grows d' := by
  have hmet := metIn_sublist hsublist framework
  rw [of?_eq] at hd
  split at hd
  · cases hd
  · next hne =>
      obtain rfl := Option.some.inj hd
      have hne' : ¬ (metIn framework sources').isEmpty = true := by
        rw [List.isEmpty_iff] at hne ⊢
        rintro hnil
        rw [hnil] at hmet
        exact hne (List.sublist_nil.mp hmet)
      rw [of?_eq, if_neg hne']
      exact ⟨_, rfl, rfl, rfl, Counting.total_le_of_sublist (hmet.map Prod.snd),
        hmet.map Prod.fst⟩

theorem all_grows
    {d : Detection}
    (hd : d ∈ all sources) :
    ∃ d' ∈ all sources', d.Grows d' := by
  rw [all_eq, List.mem_mergeSort, List.mem_filterMap] at hd
  obtain ⟨framework, hframework, hof⟩ := hd
  obtain ⟨d', hof', hgrows⟩ := of?_grows hsublist hof
  refine ⟨d', ?_, hgrows⟩
  rw [all_eq, List.mem_mergeSort, List.mem_filterMap]
  exact ⟨framework, hframework, hof'⟩

end Sources

end Detection

namespace Migration

open Floating

/-- The number of files that the detections list, a file counted once for each of them. -/
def affected
    (detections : List Detection) : Nat :=
  Counting.total (detections.map fun d => d.files.length)

theorem affected_filterMap_of?
    (sources : List (String × String))
    (frameworks : List Framework) :
    affected (frameworks.filterMap (Detection.of? sources)) =
      Counting.total (frameworks.map fun framework => (Detection.metIn framework sources).length) := by
  induction frameworks with
  | nil =>
      rfl
  | cons framework rest ih =>
      rw [List.map_cons, Counting.total, List.foldr_cons, ← Counting.total, ← ih]
      by_cases hnone : (Detection.metIn framework sources).isEmpty = true
      · have hof : Detection.of? sources framework = none := by
          rw [Detection.of?_eq, if_pos hnone]
        rw [List.filterMap_cons_none hof, List.isEmpty_iff.mp hnone, List.length_nil, Nat.zero_add]
      · have hof := Detection.of?_eq sources framework
        rw [if_neg hnone] at hof
        rw [List.filterMap_cons_some hof, affected, List.map_cons, Counting.total, List.foldr_cons,
          List.length_map]
        rfl

/-- The order of the detections does not matter for the number of files that they list. -/
theorem affected_all
    (sources : List (String × String)) :
    affected (Detection.all sources) =
      Counting.total
        (Framework.all.map fun framework => (Detection.metIn framework sources).length) := by
  rw [← affected_filterMap_of?, Detection.all_eq]
  exact Counting.total_perm ((List.mergeSort_perm _ _).map _)

theorem affected_all_le
    {sources sources' : List (String × String)}
    (hsublist : sources.Sublist sources') :
    affected (Detection.all sources) ≤ affected (Detection.all sources') := by
  rw [affected_all, affected_all, Counting.total_eq_sum, Counting.total_eq_sum]
  exact List.sum_le_sum fun framework _ =>
    (Detection.metIn_sublist hsublist framework).length_le

/-- The estimate of the weeks is monotone in the counts that it is computed from. -/
theorem atMost_heuristicWeeks
    {complexity complexity' : Complexity}
    {detections detections' : List Detection}
    (hfunctions : complexity.totalFunctions ≤ complexity'.totalFunctions)
    (hclasses : complexity.totalClasses ≤ complexity'.totalClasses)
    (haffected : affected detections ≤ affected detections') :
    AtMost (heuristicWeeks complexity detections) (heuristicWeeks complexity' detections') := by
  have hforty : (40 : Floating) = .num (40 : Nat) := ofNat_eq_num (by decide)
  have hfifteen : (15 : Floating) = .num (15 : Nat) := ofNat_eq_num (by decide)
  have hten : (10 : Floating) = .num (10 : Nat) := ofNat_eq_num (by decide)
  have hpositive : ∀ {c : Nat}, 0 < c → (0 : Rat) < c := fun hc => Nat.cast_pos.mpr hc
  rw [heuristicWeeks, heuristicWeeks, one_eq_num, hforty, hfifteen, hten]
  apply AtMost.roundTenth
  apply AtMost.maximum_num
  apply AtMost.add
  · apply AtMost.add
    · exact (atMost_ofNat hfunctions).div_num (hpositive (by decide))
    · exact (atMost_ofNat hclasses).div_num (hpositive (by decide))
  · exact (atMost_ofNat haffected).div_num (hpositive (by decide))

theorem heuristicSteps_grows
    {detections detections' : List Detection}
    (hgrows : ∀ d ∈ detections, ∃ d' ∈ detections', d.Grows d')
    (target : String)
    {step : MigrationStep}
    (hstep : step ∈ heuristicSteps detections target) :
    ∃ step' ∈ heuristicSteps detections' target,
      step'.title = step.title ∧ step'.category = step.category ∧
        step'.priority = step.priority := by
  rw [heuristicSteps, List.mem_cons, List.mem_cons, List.mem_map] at hstep
  rcases hstep with rfl | rfl | ⟨d, hd, rfl⟩
  · exact ⟨_, List.mem_cons_self, rfl, rfl, rfl⟩
  · exact ⟨_, List.mem_cons_of_mem _ List.mem_cons_self, rfl, rfl, rfl⟩
  · obtain ⟨d', hd', hframework, -⟩ := hgrows d hd
    have hmem : detectionStep target d' ∈ heuristicSteps detections' target :=
      List.mem_cons_of_mem _ (List.mem_cons_of_mem _ (List.mem_map_of_mem hd'))
    refine ⟨_, hmem, ?_⟩
    simp only [detectionStep, hframework, and_self]

section Files

variable (read : ReadFile)
variable {files files' : List FileRecord}
variable (hsublist : files.Sublist files')

include hsublist

theorem structuresOf_sublist :
    (structuresOf read files).Sublist (structuresOf read files') := by
  exact (hsublist.filterMap _).filterMap _

theorem namedSources_sublist :
    (namedSources read files).Sublist (namedSources read files') := by
  exact (hsublist.filterMap _).map _

end Files

/--
A file that is inserted anywhere leaves the static part of a plan in place.

No sum of the complexity decreases.  Each detected framework is still detected, at least as often, and
in at least the files in which it was.  Each static step is still there, with its title, its category
and its priority; its files and its effort may have grown.  The static estimate of the weeks does not
decrease, and it is at least one week.  Nothing of this depends on the models or on what they are shown.
-/
theorem analyze_grows
    (client client' : Option Client)
    (read : ReadFile)
    (earlier earlier' : List Prompt)
    (metadata metadata' : Metadata)
    (before after : List FileRecord)
    (extra : FileRecord)
    (target : String)
    (package package' : Option Package) :
    let planned :=
      (analyze client read earlier metadata (before ++ after) target package).result
    let further :=
      (analyze client' read earlier' metadata' (before ++ extra :: after) target package').result
    planned.complexity.Within further.complexity ∧
      (∀ d ∈ planned.detectedFrameworks, ∃ d' ∈ further.detectedFrameworks, d.Grows d') ∧
      (∀ step ∈ heuristicSteps planned.detectedFrameworks target,
        ∃ step' ∈ heuristicSteps further.detectedFrameworks target,
          step'.title = step.title ∧ step'.category = step.category ∧
            step'.priority = step.priority) ∧
      (heuristicWeeks further.complexity further.detectedFrameworks).atLeast
        (heuristicWeeks planned.complexity planned.detectedFrameworks) = true ∧
      (heuristicWeeks planned.complexity planned.detectedFrameworks).atLeast 1 = true := by
  intro planned further
  have hfiles : (before ++ after).Sublist (before ++ extra :: after) :=
    (List.sublist_cons_self extra after).append_left before
  have hcomplexity : planned.complexity.Within further.complexity :=
    Complexity.of_grows (structuresOf_sublist read hfiles)
  have hgrows : ∀ d ∈ planned.detectedFrameworks, ∃ d' ∈ further.detectedFrameworks, d.Grows d' :=
    fun d => Detection.all_grows (namedSources_sublist read hfiles)
  have haffected : affected planned.detectedFrameworks ≤ affected further.detectedFrameworks :=
    affected_all_le (namedSources_sublist read hfiles)
  refine ⟨hcomplexity, hgrows, fun step => heuristicSteps_grows hgrows target, ?_, ?_⟩
  · exact (atMost_heuristicWeeks hcomplexity.totalFunctions hcomplexity.totalClasses
      haffected).atLeast
  · rw [one_eq_num]
    exact (notBelow_heuristicWeeks _ _).atLeast

end Migration
end CodeAudit
