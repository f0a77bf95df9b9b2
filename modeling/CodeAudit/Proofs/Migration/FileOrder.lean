import CodeAudit.Migration.Analyze
import CodeAudit.Proofs.Counting
import CodeAudit.Proofs.Migration.Detection
import CodeAudit.Proofs.Sorting
import CodeAudit.Proofs.Structure.Counts
import Mathlib.Data.List.Nodup

/-!
# A plan does not depend on the order of the files

The order of the files enters a plan at two places.  The files of a detection are listed in it; only
their number is used for anything else, and the detections themselves are sorted by frequencies,
which are sums.  The most complex files are ranked and cut to a number of them; a tie in complexity
is broken by the path, so the ranking is the same from any order as long as no two files have the
same path.

**Results.**
* `Detection.all_rel`: the detections agree but for the order of their files.
* `Complexity.of_eq_of_perm`: the complexity is the same if the paths are distinct.
* `plan_of_similar`: similar detections give plans that agree in everything else.
* `analyze_eq_of_perm`: the plans of two orders.
-/

namespace CodeAudit

/-- Two detections are the same but for the order of their files. -/
structure Detection.Similar
    (d d' : Detection) : Prop where
  framework : d.framework = d'.framework
  name : d.name = d'.name
  occurrences : d.occurrences = d'.occurrences
  files : d.files.Perm d'.files

namespace Detection

theorem metIn_perm
    (framework : Framework)
    {sources sources' : List (String × String)}
    (hperm : sources.Perm sources') :
    (metIn framework sources).Perm (metIn framework sources') := by
  exact (hperm.map _).filter _

/-- A framework is detected in both orders or in neither. -/
theorem of?_rel
    (framework : Framework)
    {sources sources' : List (String × String)}
    (hperm : sources.Perm sources') :
    Option.Rel Similar (of? sources framework) (of? sources' framework) := by
  have hmet := metIn_perm framework hperm
  rw [of?_eq, of?_eq, hmet.isEmpty_eq]
  split
  · exact Option.Rel.none
  · exact Option.Rel.some
      ⟨rfl, rfl, Counting.total_perm (hmet.map Prod.snd), hmet.map Prod.fst⟩

/-- The detections stand in the same order, since they are sorted by sums. -/
theorem all_rel
    {sources sources' : List (String × String)}
    (hperm : sources.Perm sources') :
    List.Forall₂ Similar (all sources) (all sources') := by
  rw [all_eq, all_eq]
  apply Sorting.forall₂_mergeSort
  · intro a b a' b' ha hb
    rw [ha.occurrences, hb.occurrences]
  · apply List.rel_filterMap (R := Eq)
    · rintro framework _ rfl
      exact of?_rel framework hperm
    · exact List.forall₂_refl _

/-- What does not look at the order of the files is the same for similar detections. -/
theorem map_eq_of_similar
    {α : Type}
    {f : Detection → α}
    (hf : ∀ d d', d.Similar d' → f d = f d')
    {detections detections' : List Detection}
    (hsimilar : List.Forall₂ Similar detections detections') :
    detections.map f = detections'.map f := by
  rw [← List.forall₂_eq_eq_eq, List.forall₂_map_left_iff, List.forall₂_map_right_iff]
  exact hsimilar.imp hf

theorem isEmpty_eq_of_similar
    {detections detections' : List Detection}
    (hsimilar : List.Forall₂ Similar detections detections') :
    detections.isEmpty = detections'.isEmpty := by
  cases hsimilar <;> rfl

end Detection

namespace Complexity

theorem listedBefore_iff
    (a b : FileStructure) :
    listedBefore a b = true ↔
      b.complexity < a.complexity ∨ a.complexity = b.complexity ∧ a.path ≤ b.path := by
  rw [listedBefore, Bool.or_eq_true, Bool.and_eq_true, decide_eq_true_iff, beq_iff_eq,
    Bool.not_eq_true', decide_eq_false_iff_not, String.not_lt]

theorem listedBefore_trans
    (a b c : FileStructure)
    (hab : listedBefore a b)
    (hbc : listedBefore b c) :
    listedBefore a c := by
  rw [listedBefore_iff] at *
  rcases hab with hab | ⟨hab, habPath⟩
  · rcases hbc with hbc | ⟨hbc, -⟩
    · exact Or.inl (Nat.lt_trans hbc hab)
    · exact Or.inl (hbc ▸ hab)
  · rcases hbc with hbc | ⟨hbc, hbcPath⟩
    · exact Or.inl (hab ▸ hbc)
    · exact Or.inr ⟨hab.trans hbc, String.le_trans habPath hbcPath⟩

theorem listedBefore_total
    (a b : FileStructure) :
    listedBefore a b || listedBefore b a := by
  rw [Bool.or_eq_true, listedBefore_iff, listedBefore_iff]
  rcases Nat.lt_trichotomy a.complexity b.complexity with hlt | heq | hgt
  · exact Or.inr (Or.inl hlt)
  · rcases String.le_total a.path b.path with hab | hba
    · exact Or.inl (Or.inr ⟨heq, hab⟩)
    · exact Or.inr (Or.inr ⟨heq.symm, hba⟩)
  · exact Or.inl (Or.inl hgt)

/-- Only files with the same path are listed before each other. -/
theorem path_eq_of_listedBefore
    {a b : FileStructure}
    (hab : listedBefore a b)
    (hba : listedBefore b a) :
    a.path = b.path := by
  rw [listedBefore_iff] at hab hba
  rcases hab with hab | ⟨heq, hab⟩
  · rcases hba with hba | ⟨hba, -⟩ <;> omega
  · rcases hba with hba | ⟨-, hba⟩
    · omega
    · exact String.le_antisymm hab hba

/-- The complexity of files with distinct paths does not depend on their order. -/
theorem of_eq_of_perm
    {structures structures' : List FileStructure}
    (hperm : structures.Perm structures')
    (hdistinct : (structures.map FileStructure.path).Nodup) :
    Complexity.of structures = Complexity.of structures' := by
  have htotal : ∀ f : FileStructure → Nat,
      Counting.total (structures.map f) = Counting.total (structures'.map f) :=
    fun f => Counting.total_perm (hperm.map f)
  have hranked : structures.mergeSort listedBefore = structures'.mergeSort listedBefore := by
    apply Sorting.mergeSort_eq_of_perm listedBefore_trans listedBefore_total hperm
    intro a ha b hb hab hba
    exact List.inj_on_of_nodup_map hdistinct ha hb (path_eq_of_listedBefore hab hba)
  simp only [Complexity.of, hperm.isEmpty_eq, hperm.length_eq, htotal, hranked]

end Complexity

namespace Migration

/-- The structures of the files that can be read and whose language has one. -/
def structuresOf
    (read : ReadFile)
    (files : List FileRecord) : List FileStructure :=
  (readableSources read files).filterMap fun source => structureOf? source.1 source.2

/-- The names and contents of the files that can be read. -/
def namedSources
    (read : ReadFile)
    (files : List FileRecord) : List (String × String) :=
  (readableSources read files).map fun source => (source.1.relativePath, source.2)

section Sources

variable (read : ReadFile)
variable {files files' : List FileRecord}

theorem readableSources_perm
    (hperm : files.Perm files') :
    (readableSources read files).Perm (readableSources read files') := by
  exact hperm.filterMap _

theorem path_of_structureOf?
    {file : FileRecord}
    {content : String}
    {s : FileStructure}
    (hs : structureOf? file content = some s) :
    s.path = file.relativePath := by
  obtain ⟨language, -, rfl⟩ := Option.map_eq_some_iff.mp hs
  exact FileStructure.path_ofContent _ _ _

/-- Files with distinct paths have structures with distinct paths. -/
theorem nodup_paths_structuresOf
    (hdistinct : (files.map FileRecord.relativePath).Nodup) :
    ((structuresOf read files).map FileStructure.path).Nodup := by
  rw [List.Nodup, List.pairwise_map] at *
  rw [structuresOf, readableSources]
  have hsources :
      (files.filterMap fun file => (read file).map fun content => (file, content)).Pairwise
        fun source source' => source.1.relativePath ≠ source'.1.relativePath := by
    refine hdistinct.filterMap _ ?_
    intro file file' hne source hsource source' hsource'
    obtain ⟨content, -, rfl⟩ := Option.map_eq_some_iff.mp hsource
    obtain ⟨content', -, rfl⟩ := Option.map_eq_some_iff.mp hsource'
    exact hne
  refine hsources.filterMap _ ?_
  intro source source' hne s hs s' hs'
  rw [path_of_structureOf? hs, path_of_structureOf? hs']
  exact hne

end Sources

section Similar

variable {detections detections' : List Detection}
variable (hsimilar : List.Forall₂ Detection.Similar detections detections')

include hsimilar

theorem heuristicSteps_of_similar
    (target : String) :
    heuristicSteps detections target = heuristicSteps detections' target := by
  have hsteps := Detection.map_eq_of_similar (f := detectionStep target)
    (fun d d' h => by simp only [detectionStep, h.framework, h.files.length_eq]) hsimilar
  simp only [heuristicSteps, hsteps]

theorem heuristicWeeks_of_similar
    (complexity : Complexity) :
    heuristicWeeks complexity detections = heuristicWeeks complexity detections' := by
  have haffected := Detection.map_eq_of_similar (f := fun d => d.files.length)
    (fun d d' h => h.files.length_eq) hsimilar
  simp only [heuristicWeeks, haffected]

/-- The model is asked the same question. -/
theorem planningQuestion_of_similar
    (target : String)
    (complexity : Complexity)
    (package : Package) :
    planningQuestion target detections complexity package =
      planningQuestion target detections' complexity package := by
  have hlines := Detection.map_eq_of_similar (f := detectionLine)
    (fun d d' h => by simp only [detectionLine, h.name, h.occurrences, h.files.length_eq])
    hsimilar
  unfold planningQuestion
  rw [hlines, Detection.isEmpty_eq_of_similar hsimilar]

theorem outline_of_similar
    (client : Option Client)
    (earlier : List Prompt)
    (target : String)
    (complexity : Complexity)
    (package : Option Package) :
    outline client earlier target detections complexity package =
      outline client earlier target detections' complexity package := by
  cases package with
  | none =>
      rfl
  | some package =>
      simp only [outline, planningQuestion_of_similar hsimilar]

theorem staticLines_of_similar
    (complexity : Complexity) :
    staticLines detections complexity = staticLines detections' complexity := by
  have hlines := Detection.map_eq_of_similar
    (f := fun d : Detection =>
      "  ▸ " ++ d.name ++ " (" ++ toString d.occurrences ++ " markers in "
        ++ toString d.files.length ++ " files)")
    (fun d d' h => by simp only [h.name, h.occurrences, h.files.length_eq]) hsimilar
  simp only [staticLines, Detection.isEmpty_eq_of_similar hsimilar, hlines]

/-- In a plan only the files of the detections show in which order they came. -/
theorem plan_of_similar
    (metadata : Metadata)
    (target : String)
    (complexity : Complexity)
    (packaging : Option PackagingMethod)
    (answer : Option Outline) :
    plan metadata target detections' complexity packaging answer =
      { plan metadata target detections complexity packaging answer with
        detectedFrameworks := detections' } := by
  simp only [plan, heuristicSteps_of_similar hsimilar, heuristicWeeks_of_similar hsimilar]

end Similar

/-- An audit for a migration, in terms of the sources and the structures that are read. -/
theorem analyze_eq
    (client : Option Client)
    (read : ReadFile)
    (earlier : List Prompt)
    (metadata : Metadata)
    (files : List FileRecord)
    (target : String)
    (package : Option Package) :
    let detections := Detection.all (namedSources read files)
    let complexity := Complexity.of (structuresOf read files)
    let answered := outline client earlier target detections complexity package
    analyze client read earlier metadata files target package =
      ⟨plan metadata target detections complexity (package.map Package.method) answered.1,
        staticLines detections complexity, answered.2⟩ := by
  rfl

/--
A plan does not depend on the order in which the files are given.

For files with distinct paths, two orders give plans with the same complexity, the most complex
files in the same order, the same steps in the same order, the same weeks, summary and risks, and
the same in everything else but the detected frameworks; these are the same, in the same order, but
for the order of the files of each.  The model is asked the same, and the console shows the same.
-/
theorem analyze_eq_of_perm
    (client : Option Client)
    (read : ReadFile)
    (earlier : List Prompt)
    (metadata : Metadata)
    (files files' : List FileRecord)
    (hperm : files.Perm files')
    (hdistinct : (files.map FileRecord.relativePath).Nodup)
    (target : String)
    (package : Option Package) :
    let planned := analyze client read earlier metadata files target package
    let other := analyze client read earlier metadata files' target package
    other.result.complexity = planned.result.complexity ∧
      other.result.steps = planned.result.steps ∧
      other.result.estimatedWeeks = planned.result.estimatedWeeks ∧
      other.result.summary = planned.result.summary ∧
      other.result.risks = planned.result.risks ∧
      List.Forall₂ Detection.Similar
        planned.result.detectedFrameworks other.result.detectedFrameworks ∧
      other.result =
        { planned.result with detectedFrameworks := other.result.detectedFrameworks } ∧
      other.prompts = planned.prompts ∧
      other.console = planned.console := by
  intro planned other
  have hsources := readableSources_perm read hperm
  have hsimilar : List.Forall₂ Detection.Similar
      (Detection.all (namedSources read files)) (Detection.all (namedSources read files')) :=
    Detection.all_rel (hsources.map _)
  have hcomplexity :
      Complexity.of (structuresOf read files) = Complexity.of (structuresOf read files') :=
    Complexity.of_eq_of_perm (hsources.filterMap _) (nodup_paths_structuresOf read hdistinct)
  have hanswered := outline_of_similar hsimilar client earlier target
    (Complexity.of (structuresOf read files')) package
  have hlines := staticLines_of_similar hsimilar (Complexity.of (structuresOf read files'))
  have hplanned : planned = _ := analyze_eq client read earlier metadata files target package
  have hother : other = _ := analyze_eq client read earlier metadata files' target package
  rw [hcomplexity, hanswered, hlines] at hplanned
  have hresult : other.result =
      { planned.result with detectedFrameworks := other.result.detectedFrameworks } := by
    rw [hplanned, hother]
    exact plan_of_similar hsimilar metadata target _ _ _
  refine ⟨?_, ?_, ?_, ?_, ?_, ?_, hresult, ?_, ?_⟩
  · rw [hresult]
  · rw [hresult]
  · rw [hresult]
  · rw [hresult]
  · rw [hresult]
  · rw [hplanned, hother]
    exact hsimilar
  · rw [hplanned, hother]
  · rw [hplanned, hother]

/-- A source file of a sample project. -/
def sampleSource
    (name : String) : FileRecord :=
  ⟨"p/" ++ name, name, 30, some "java", some "java"⟩

/--
Two files of the same complexity, both with a framework, are planned alike from either order: the
tie is broken by their paths.
-/
theorem tied_files_planned_alike :
    let read : ReadFile := fun _ => some "class Page \x7b\n  $.ajax(request);\n\x7d"
    let files := [sampleSource "b.java", sampleSource "a.java"]
    let client := Client.scripted "scripted" [.ok "\x7b\"estimated_weeks\": 4\x7d"]
    let package : Package := ⟨"class Page", .manual, false⟩
    let planned := analyze (some client) read [] default files "Quarkus" (some package)
    let other := analyze (some client) read [] default files.reverse "Quarkus" (some package)
    files.Perm files.reverse ∧
      (files.map FileRecord.relativePath).Nodup ∧
      (structuresOf read files).map (fun s => (s.path, s.complexity)) =
        [("b.java", 2), ("a.java", 2)] ∧
      Detection.of? (namedSources read files) .jQuery =
        some ⟨.jQuery, "jQuery", 2, ["b.java", "a.java"]⟩ ∧
      other.result.complexity = planned.result.complexity ∧
      other.result.steps = planned.result.steps ∧
      other.result.estimatedWeeks = planned.result.estimatedWeeks ∧
      List.Forall₂ Detection.Similar
        planned.result.detectedFrameworks other.result.detectedFrameworks := by
  intro read files client package planned other
  have hperm : files.Perm files.reverse := (List.reverse_perm files).symm
  have hdistinct : (files.map FileRecord.relativePath).Nodup := by decide
  obtain ⟨hcomplexity, hsteps, hweeks, -, -, hdetected, -⟩ :=
    analyze_eq_of_perm (some client) read [] default files files.reverse hperm hdistinct
      "Quarkus" (some package)
  exact ⟨hperm, hdistinct, by decide +kernel, by decide +kernel, hcomplexity, hsteps, hweeks,
    hdetected⟩

end Migration
end CodeAudit
