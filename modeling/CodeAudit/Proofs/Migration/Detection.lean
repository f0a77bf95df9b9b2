import CodeAudit.Counting.Total
import CodeAudit.Migration.Framework
import CodeAudit.Proofs.Counting
import Mathlib.Data.List.Nodup

/-!
# Detections of frameworks

A framework is detected if it is met in some source, by a line or by the name of the file, and its
detection lists the sources in which it is met.

The program goes through the sources once and gathers what it meets by framework.  What it gathers of
one framework does not depend on the others, so the detections may as well be made one framework after
another, each in a pass of its own.

**Results.**
* `Detection.all_eq`: one pass for all frameworks, and a pass for each of them.
* `Detection.of?_eq`: a detection in terms of the sources in which a framework is met.
* `Detection.exists_of_marker`: a file whose name marks a framework is listed.
-/

namespace CodeAudit

theorem Framework.mem_all
    (framework : Framework) :
    framework ∈ Framework.all := by
  cases framework <;> decide

namespace Detection

/-- The sources in which a framework is met, each with how often. -/
def metIn
    (framework : Framework)
    (sources : List (String × String)) : List (String × Nat) :=
  (sources.map fun source => (source.1, occurrencesIn framework source.1 source.2)).filter
    fun met => decide (0 < met.2)

/-- The detection of a framework in sources, if it is met at all. -/
def of?
    (sources : List (String × String))
    (framework : Framework) : Option Detection :=
  let met := metIn framework sources
  if met.isEmpty then none
  else some ⟨framework, framework.label, Counting.total (met.map Prod.snd), met.map Prod.fst⟩

theorem of?_eq
    (sources : List (String × String))
    (framework : Framework) :
    of? sources framework =
      if (metIn framework sources).isEmpty then none
      else
        some ⟨framework, framework.label, Counting.total ((metIn framework sources).map Prod.snd),
          (metIn framework sources).map Prod.fst⟩ := by
  rfl

/-! ## One pass for all frameworks -/

/-- Whether a framework is met in a source. -/
def isMetIn
    (framework : Framework)
    (source : String × String) : Bool :=
  decide (0 < occurrencesIn framework source.1 source.2)

/-- The frameworks that are met in a source, in order. -/
def metBy (source : String × String) : List (Framework × String × String) :=
  (Framework.all.filter fun framework => isMetIn framework source).map fun framework =>
    (framework, source)

/-- What one more source adds to the hits of a framework. -/
def addTo
    (item : Framework × String × String)
    (hits : Nat × List String) : Nat × List String :=
  (hits.1 + occurrencesIn item.1 item.2.1 item.2.2, hits.2 ++ [item.2.1])

theorem addSource_eq
    (hits : Hits)
    (source : String × String) :
    addSource hits source =
      (metBy source).foldl (fun hits item => Counting.update item.1 (0, []) (addTo item) hits)
        hits := by
  rw [addSource, metBy, List.foldl_map, List.foldl_filter]
  congr 1
  funext hits framework
  unfold addHits isMetIn
  by_cases hcount : 0 < occurrencesIn framework source.1 source.2
  · simp only [hcount, if_true, decide_true]
    rfl
  · simp [hcount]

theorem pairwise_all :
    Framework.all.Pairwise fun a b => a < b ∧ ¬ b < a := by
  decide

/-- Of what is met in a source one framework has its own part. -/
theorem filter_metBy
    (framework : Framework)
    (source : String × String) :
    (metBy source).filter (fun item => decide (item.1 = framework)) =
      if isMetIn framework source then [(framework, source)] else [] := by
  have hone : Framework.all.filter (fun other => decide (other = framework)) = [framework] := by
    cases framework <;> decide
  have hboth : (Framework.all.filter fun other => isMetIn other source).filter
      (fun other => decide (other = framework)) =
        if isMetIn framework source then [framework] else [] := by
    rw [List.filter_comm, hone, List.filter_singleton, Bool.cond_eq_ite]
  rw [metBy, List.filter_map]
  change ((Framework.all.filter fun other => isMetIn other source).filter
    (fun other => decide (other = framework))).map _ = _
  rw [hboth]
  split <;> rfl

theorem filter_flatMap_metBy
    (framework : Framework)
    (sources : List (String × String)) :
    (sources.flatMap metBy).filter (fun item => decide (item.1 = framework)) =
      (sources.filter (isMetIn framework)).map fun source => (framework, source) := by
  induction sources with
  | nil =>
      rfl
  | cons source rest ih =>
      rw [List.flatMap_cons, List.filter_append, filter_metBy, ih, List.filter_cons]
      split <;> rfl

theorem metIn_eq_map_filter
    (framework : Framework)
    (sources : List (String × String)) :
    metIn framework sources =
      (sources.filter (isMetIn framework)).map fun source =>
        (source.1, occurrencesIn framework source.1 source.2) := by
  rw [metIn, List.filter_map]
  rfl

/-- The hits of one framework are added up, and its files stand in the order of the sources. -/
theorem foldl_addTo
    (framework : Framework)
    (sources : List (String × String))
    (hits : Nat × List String) :
    (sources.map fun source => (framework, source)).foldl (fun hits item => addTo item hits) hits =
      (hits.1 + Counting.total (sources.map fun source =>
          occurrencesIn framework source.1 source.2),
        hits.2 ++ sources.map Prod.fst) := by
  induction sources generalizing hits with
  | nil =>
      simp [Counting.total]
  | cons source rest ih =>
      rw [List.map_cons, List.foldl_cons, ih, addTo]
      simp [Counting.total_eq_sum, Nat.add_assoc]

/-- What is gathered of a framework is its detection. -/
theorem map_gathered
    (framework : Framework)
    (sources : List (String × String)) :
    let mine := (sources.flatMap metBy).filter fun item => decide (item.1 = framework)
    (if mine = [] then none
      else some (mine.foldl (fun hits item => addTo item hits) (0, []))).map
        (fun hits => (⟨framework, framework.label, hits.1, hits.2⟩ : Detection)) =
      of? sources framework := by
  intro mine
  have hmine : mine = (sources.filter (isMetIn framework)).map fun source => (framework, source) :=
    filter_flatMap_metBy framework sources
  rw [hmine, of?_eq, metIn_eq_map_filter, foldl_addTo]
  by_cases hnone : sources.filter (isMetIn framework) = []
  · simp [hnone]
  · simp [hnone, Function.comp_def]

/-- The pass over the sources yields for each framework what a pass for it alone would yield. -/
theorem all_eq
    (sources : List (String × String)) :
    all sources =
      (Framework.all.filterMap (of? sources)).mergeSort fun a b =>
        decide (b.occurrences ≤ a.occurrences) := by
  have hstep : addSource = fun hits source =>
      (metBy source).foldl (fun hits item => Counting.update item.1 (0, []) (addTo item) hits)
        hits := by
    funext hits source
    exact addSource_eq hits source
  have hkeys : ∀ item ∈ sources.flatMap metBy, item.1 ∈ Framework.all :=
    fun item _ => item.1.mem_all
  rw [all, hstep, ← List.foldl_flatMap, Counting.foldl_update pairwise_all hkeys, Counting.valuesOf,
    List.map_filterMap]
  refine congrArg (List.mergeSort · _) (List.filterMap_congr ?_)
  intro framework _
  rw [← map_gathered, Option.map_map]
  rfl

/-! ## What is detected -/

theorem mem_metIn_of_pos
    {framework : Framework}
    {sources : List (String × String)}
    {path content : String}
    (hsource : (path, content) ∈ sources)
    (hcount : 0 < occurrencesIn framework path content) :
    (path, occurrencesIn framework path content) ∈ metIn framework sources := by
  rw [metIn, List.mem_filter]
  refine ⟨?_, by simpa using hcount⟩
  exact List.mem_map.mpr ⟨(path, content), hsource, rfl⟩

/-- A framework that is met in a source is detected, and the source is listed. -/
theorem exists_of_pos
    {framework : Framework}
    {sources : List (String × String)}
    {path content : String}
    (hsource : (path, content) ∈ sources)
    (hcount : 0 < occurrencesIn framework path content) :
    ∃ detection ∈ all sources, detection.framework = framework ∧ path ∈ detection.files := by
  have hmet := mem_metIn_of_pos hsource hcount
  have hne : ¬ (metIn framework sources).isEmpty = true := by
    rw [List.isEmpty_iff]
    exact List.ne_nil_of_mem hmet
  have hdetected : ∃ detection, of? sources framework = some detection ∧
      detection.framework = framework ∧ path ∈ detection.files := by
    rw [of?_eq, if_neg hne]
    exact ⟨_, rfl, rfl, List.mem_map.mpr ⟨_, hmet, rfl⟩⟩
  obtain ⟨detection, hof, hframework, hfile⟩ := hdetected
  refine ⟨detection, ?_, hframework, hfile⟩
  rw [all_eq, List.mem_mergeSort, List.mem_filterMap]
  exact ⟨framework, framework.mem_all, hof⟩

/-- A file whose name marks a framework is among the files of its detection. -/
theorem exists_of_marker
    {framework : Framework}
    {sources : List (String × String)}
    {path content : String}
    (hsource : (path, content) ∈ sources)
    (hmarker : isMarker framework path = true) :
    ∃ detection ∈ all sources, detection.framework = framework ∧ path ∈ detection.files := by
  apply exists_of_pos hsource
  rw [occurrencesIn, if_pos hmarker]
  omega

end Detection

end CodeAudit
