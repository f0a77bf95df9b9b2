import CodeAudit.Proofs.Counting
import CodeAudit.Proofs.Files.Recognition
import CodeAudit.Proofs.Sorting
import Mathlib.Algebra.BigOperators.Group.List.Basic

/-!
# How often a framework is met

A source counts for a framework with its lines and with its name.  `frequency` adds up what all sources
count, also those that count nothing, and so it is additive in the sources; a detection is made of it
where it is positive.  The detections are sorted by their frequencies only.  Equal ones stand as the
frameworks are declared, because they are collected in this order and sorting is stable.

**Results.**
* `isMarker_iff_marks`: the names that mark a framework.
* `of?_eq_of_frequency`: a detection in terms of the frequency.
* `filter_all`: at most one detection of each framework is listed.
* `inOrder_all`: the order of the detections.
* `frameworks_by_frequency`: the list of detections, and the lists of more sources.
-/

namespace CodeAudit

namespace Framework

/-- The last name of a path is what stands behind its last slash. -/
def IsLastName
    (path name : String) : Prop :=
  '/' ∉ name.toList ∧
    (path = name ∨ ∃ front, path.toList = front ++ '/' :: name.toList)

/-- The name of a file marks a framework: in lower case it is one of the names of the framework, or it
ends in a dot and one of the extensions. -/
def Marks
    (framework : Framework)
    (path : String) : Prop :=
  ∃ name, IsLastName path name ∧
    (Text.lowerCase name ∈ framework.fileNames ∨
      ∃ extension ∈ framework.extensions,
        '.' :: extension.toList <:+ (Text.lowerCase name).toList)

/-- The place of a framework among all of them. -/
def place
    (framework : Framework) : Nat :=
  all.idxOf framework

theorem exists_lastName
    (path : String) :
    ∃ name, IsLastName path name := by
  rcases Text.absent_or_last '/' path.toList with hslash | ⟨front, back, hpath, hslash⟩
  · exact ⟨path, hslash, Or.inl rfl⟩
  · refine ⟨String.ofList back, ?_, Or.inr ⟨front, ?_⟩⟩
    · rwa [String.toList_ofList]
    · rwa [String.toList_ofList]

theorem extension_plain
    (framework : Framework)
    {extension : String}
    (hextension : extension ∈ framework.extensions) :
    '.' ∉ extension.toList ∧ extension ≠ "" := by
  have hplain : ∀ framework ∈ all, ∀ extension ∈ framework.extensions,
      '.' ∉ extension.toList ∧ extension ≠ "" := by
    decide
  exact hplain framework framework.mem_all extension hextension

/-- What follows the last dot of a name is an extension if the name ends in it, with the dot. -/
theorem markerExtension_eq_iff
    {name extension : String}
    (hdot : '.' ∉ extension.toList)
    (hne : extension ≠ "") :
    Detection.markerExtension name = extension ↔ '.' :: extension.toList <:+ name.toList := by
  constructor
  · intro hextension
    rcases Text.absent_or_last '.' name.toList with habsent | ⟨front, back, hname, hback⟩
    · rw [markerExtension_of_no_dot habsent] at hextension
      exact absurd hextension.symm hne
    · rw [markerExtension_of_last_dot hname hback] at hextension
      refine ⟨front, ?_⟩
      rw [hname, ← hextension, String.toList_ofList]
  · rintro ⟨front, hname⟩
    rw [markerExtension_of_last_dot hname.symm hdot, String.ofList_toList]

/-- The names that mark a framework for the detection are those that mark it. -/
theorem isMarker_iff_marks
    (framework : Framework)
    (path : String) :
    Detection.isMarker framework path = true ↔ framework.Marks path := by
  have hmarker : ∀ {name : String}, IsLastName path name →
      (Detection.isMarker framework path = true ↔
        Text.lowerCase name ∈ framework.fileNames ∨
          ∃ extension ∈ framework.extensions,
            '.' :: extension.toList <:+ (Text.lowerCase name).toList) := by
    rintro name ⟨hslash, hpath⟩
    rw [Discovery.isMarker_iff, Discovery.loweredName_of_last hslash hpath]
    apply or_congr_right
    constructor
    · intro hmem
      obtain ⟨hdot, hne⟩ := framework.extension_plain hmem
      exact ⟨_, hmem, (markerExtension_eq_iff hdot hne).mp rfl⟩
    · rintro ⟨extension, hmem, hends⟩
      obtain ⟨hdot, hne⟩ := framework.extension_plain hmem
      rwa [(markerExtension_eq_iff hdot hne).mpr hends]
  constructor
  · intro h
    obtain ⟨name, hname⟩ := exists_lastName path
    exact ⟨name, hname, (hmarker hname).mp h⟩
  · rintro ⟨name, hname, hmarks⟩
    exact (hmarker hname).mpr hmarks

instance (framework : Framework) (path : String) : Decidable (framework.Marks path) :=
  decidable_of_iff _ (isMarker_iff_marks framework path)

end Framework

namespace Detection

/-- What a source counts for a framework: its lines that mark the framework, and its name. -/
def evidence
    (framework : Framework)
    (source : String × String) : Nat :=
  ((Text.lines source.2).countP fun line => framework.linePattern.foundIn line) +
    if framework.Marks source.1 then 1 else 0

/-- How often a framework is met in sources. -/
def frequency
    (framework : Framework)
    (sources : List (String × String)) : Nat :=
  (sources.map (evidence framework)).sum

/-- The files in which a framework is met, in the order of the sources. -/
def filesWith
    (framework : Framework)
    (sources : List (String × String)) : List String :=
  (sources.filter fun source => decide (0 < evidence framework source)).map Prod.fst

/-- How often a framework is met according to detections. -/
def countIn
    (framework : Framework)
    (detections : List Detection) : Nat :=
  ((detections.filter fun d => decide (d.framework = framework)).map Detection.occurrences).sum

/-- The files in which a framework is met according to detections. -/
def filesIn
    (framework : Framework)
    (detections : List Detection) : List String :=
  (detections.filter fun d => decide (d.framework = framework)).flatMap Detection.files

/-- The first detection is more frequent, or as frequent and of a framework declared before. -/
def InOrder
    (d d' : Detection) : Prop :=
  d'.occurrences < d.occurrences ∨
    d.occurrences = d'.occurrences ∧ d.framework.place < d'.framework.place

section Sums

variable (framework : Framework)

theorem occurrencesIn_eq_evidence
    (source : String × String) :
    occurrencesIn framework source.1 source.2 = evidence framework source := by
  simp only [occurrencesIn, evidence, Framework.isMarker_iff_marks]

theorem frequency_append
    (xs ys : List (String × String)) :
    frequency framework (xs ++ ys) = frequency framework xs + frequency framework ys := by
  rw [frequency, List.map_append, List.sum_append]
  rfl

theorem filesWith_append
    (xs ys : List (String × String)) :
    filesWith framework (xs ++ ys) = filesWith framework xs ++ filesWith framework ys := by
  rw [filesWith, List.filter_append, List.map_append]
  rfl

/-- A file with a framework is counted at least once. -/
theorem length_filesWith_le
    (sources : List (String × String)) :
    (filesWith framework sources).length ≤ frequency framework sources := by
  induction sources with
  | nil =>
      exact Nat.le_refl 0
  | cons source rest ih =>
      rw [← List.singleton_append, filesWith_append, frequency_append, List.length_append]
      apply Nat.add_le_add _ ih
      have hcount : frequency framework [source] = evidence framework source := by
        simp [frequency]
      by_cases hpos : 0 < evidence framework source
      · have hfile : filesWith framework [source] = [source.1] := by
          simp [filesWith, hpos]
        rw [hfile, hcount]
        exact hpos
      · simp [filesWith, hpos]

theorem filesWith_eq_nil
    {sources : List (String × String)}
    (hzero : ¬ 0 < frequency framework sources) :
    filesWith framework sources = [] := by
  have hlength := length_filesWith_le framework sources
  apply List.eq_nil_of_length_eq_zero
  omega

/-- The sources that count something are those that the detection goes by. -/
theorem metIn_eq
    (sources : List (String × String)) :
    metIn framework sources =
      (sources.filter fun source => decide (0 < evidence framework source)).map
        fun source => (source.1, evidence framework source) := by
  simp only [metIn, occurrencesIn_eq_evidence, List.filter_map]
  rfl

/-- Sources that count nothing add nothing. -/
theorem total_metIn
    (sources : List (String × String)) :
    Counting.total ((metIn framework sources).map Prod.snd) = frequency framework sources := by
  rw [Counting.total_eq_sum]
  induction sources with
  | nil =>
      rfl
  | cons source rest ih =>
      rw [frequency, List.map_cons, List.sum_cons, ← frequency, ← ih, metIn_eq, metIn_eq]
      by_cases hpos : 0 < evidence framework source
      · simp [hpos]
      · have hzero : evidence framework source = 0 := by
          omega
        simp [hzero]

theorem map_fst_metIn
    (sources : List (String × String)) :
    (metIn framework sources).map Prod.fst = filesWith framework sources := by
  rw [metIn_eq, List.map_map]
  rfl

theorem metIn_eq_nil_iff
    (sources : List (String × String)) :
    metIn framework sources = [] ↔ ¬ 0 < frequency framework sources := by
  constructor
  · intro hnil
    rw [← total_metIn, hnil]
    exact Nat.lt_irrefl 0
  · intro hzero
    have hfiles := filesWith_eq_nil framework hzero
    rwa [← map_fst_metIn, List.map_eq_nil_iff] at hfiles

/-- A framework is detected if its frequency is positive, with this frequency and its files. -/
theorem of?_eq_of_frequency
    (sources : List (String × String)) :
    of? sources framework =
      if 0 < frequency framework sources then
        some ⟨framework, framework.label, frequency framework sources, filesWith framework sources⟩
      else none := by
  rw [of?_eq, total_metIn, map_fst_metIn]
  by_cases hpos : 0 < frequency framework sources
  · have hmet : ¬ (metIn framework sources).isEmpty = true := by
      rw [List.isEmpty_iff, metIn_eq_nil_iff]
      exact not_not_intro hpos
    rw [if_neg hmet, if_pos hpos]
  · rw [if_pos (List.isEmpty_iff.mpr ((metIn_eq_nil_iff framework sources).mpr hpos)),
      if_neg hpos]

theorem of?_eq_some_iff
    {sources : List (String × String)}
    {d : Detection} :
    of? sources framework = some d ↔
      0 < frequency framework sources ∧ d.framework = framework ∧ d.name = framework.label ∧
        d.occurrences = frequency framework sources ∧ d.files = filesWith framework sources := by
  obtain ⟨detected, name, occurrences, files⟩ := d
  rw [of?_eq_of_frequency]
  by_cases hpos : 0 < frequency framework sources
  · simp only [hpos, if_true, Option.some.injEq, Detection.mk.injEq, true_and, eq_comm]
  · simp [hpos]

end Sums

section List

variable (sources : List (String × String))

theorem moreFrequent_trans
    (a b c : Detection)
    (hab : decide (b.occurrences ≤ a.occurrences))
    (hbc : decide (c.occurrences ≤ b.occurrences)) :
    decide (c.occurrences ≤ a.occurrences) := by
  rw [decide_eq_true_iff] at *
  omega

theorem moreFrequent_total
    (a b : Detection) :
    decide (b.occurrences ≤ a.occurrences) || decide (a.occurrences ≤ b.occurrences) := by
  rw [Bool.or_eq_true, decide_eq_true_iff, decide_eq_true_iff]
  omega

/-- Before they are sorted, the detections stand in the order of the frameworks. -/
theorem pairwise_place :
    (Framework.all.filterMap (of? sources)).Pairwise fun d d' =>
      d.framework.place < d'.framework.place := by
  have hall : Framework.all.Pairwise fun a b => a.place < b.place := by
    decide
  apply hall.filterMap
  intro a b hlt d hd d' hd'
  rwa [((of?_eq_some_iff a).mp hd).2.1, ((of?_eq_some_iff b).mp hd').2.1]

theorem inOrder_all :
    (all sources).Pairwise InOrder := by
  have hstable := Sorting.pairwise_mergeSort_stable moreFrequent_trans moreFrequent_total
    (pairwise_place sources)
  rw [all_eq]
  apply hstable.imp
  rintro d d' ⟨hle, htie⟩
  rw [decide_eq_true_iff] at hle htie
  rcases Nat.lt_or_eq_of_le hle with hlt | heq
  · exact Or.inl hlt
  · exact Or.inr ⟨heq.symm, htie (Nat.le_of_eq heq.symm)⟩

theorem mem_all_iff
    {d : Detection} :
    d ∈ all sources ↔ ∃ framework, of? sources framework = some d := by
  rw [all_eq, List.mem_mergeSort, List.mem_filterMap]
  constructor
  · rintro ⟨framework, -, hd⟩
    exact ⟨framework, hd⟩
  · rintro ⟨framework, hd⟩
    exact ⟨framework, framework.mem_all, hd⟩

/-- Of the detections that are listed, those of one framework are what is detected of it. -/
theorem filter_all
    (framework : Framework) :
    (all sources).filter (fun d => decide (d.framework = framework)) =
      (of? sources framework).toList := by
  have hone : (Framework.all.filterMap (of? sources)).filter
      (fun d => decide (d.framework = framework)) = (of? sources framework).toList := by
    have hkept : ∀ other, (of? sources other).filter (fun d => decide (d.framework = framework)) =
        if other = framework then of? sources framework else none := by
      intro other
      cases hd : of? sources other with
      | none =>
          by_cases hother : other = framework
          · simp [← hother, hd]
          · simp [hother]
      | some d =>
          have hframework := ((of?_eq_some_iff other).mp hd).2.1
          by_cases hother : other = framework
          · simp [← hother, hd, hframework]
          · simp [hother, hframework]
    rw [List.filter_filterMap]
    simp only [hkept]
    cases of? sources framework with
    | none =>
        simp
    | some d =>
        cases framework <;> rfl
  rw [all_eq, Sorting.filter_mergeSort moreFrequent_trans moreFrequent_total, hone]
  cases of? sources framework with
  | none =>
      exact List.mergeSort_nil
  | some d =>
      exact List.mergeSort_singleton d

theorem countIn_all
    (framework : Framework) :
    countIn framework (all sources) = frequency framework sources := by
  rw [countIn, filter_all, of?_eq_of_frequency]
  split
  · simp
  · next hzero =>
      simp only [Option.toList_none, List.map_nil, List.sum_nil]
      omega

theorem filesIn_all
    (framework : Framework) :
    filesIn framework (all sources) = filesWith framework sources := by
  rw [filesIn, filter_all, of?_eq_of_frequency]
  split
  · simp
  · next hzero =>
      simp [filesWith_eq_nil framework hzero]

end List

/--
The detections of sources list each framework once, exactly if it is met.

How often it is met is the number of lines of all files that mark it, and one more for each file whose
name marks it; the files of its detection are those that count something, in their order, so there are
not more of them than occurrences.  More frequent frameworks stand in front, equally frequent ones in
the order in which they are declared.  In sources that are put one after another each framework is met
as often as in both parts together, and in the files of the first part and then of the second.
-/
theorem frameworks_by_frequency
    (sources more : List (String × String)) :
    ((all sources).map Detection.framework).Nodup ∧
      (∀ framework,
        framework ∈ (all sources).map Detection.framework ↔ 0 < frequency framework sources) ∧
      (∀ d ∈ all sources,
        d.name = d.framework.label ∧
          d.occurrences = frequency d.framework sources ∧
          d.files = filesWith d.framework sources ∧
          d.files.length ≤ d.occurrences) ∧
      (all sources).Pairwise InOrder ∧
      ∀ framework,
        countIn framework (all (sources ++ more)) =
            countIn framework (all sources) + countIn framework (all more) ∧
          filesIn framework (all (sources ++ more)) =
            filesIn framework (all sources) ++ filesIn framework (all more) := by
  refine ⟨?_, ?_, ?_, inOrder_all sources, ?_⟩
  · have hperm : (all sources).Perm (Framework.all.filterMap (of? sources)) := by
      rw [all_eq]
      exact List.mergeSort_perm _ _
    rw [(hperm.map Detection.framework).nodup_iff, List.Nodup, List.pairwise_map]
    apply (pairwise_place sources).imp
    intro d d' hlt heq
    rw [heq] at hlt
    exact Nat.lt_irrefl _ hlt
  · intro framework
    rw [List.mem_map]
    constructor
    · rintro ⟨d, hd, rfl⟩
      obtain ⟨framework, hdetected⟩ := (mem_all_iff sources).mp hd
      obtain ⟨hpos, hframework, -⟩ := (of?_eq_some_iff framework).mp hdetected
      rwa [hframework]
    · intro hpos
      have hdetected := of?_eq_of_frequency framework sources
      rw [if_pos hpos] at hdetected
      exact ⟨_, (mem_all_iff sources).mpr ⟨framework, hdetected⟩, rfl⟩
  · intro d hd
    obtain ⟨framework, hdetected⟩ := (mem_all_iff sources).mp hd
    obtain ⟨-, rfl, hname, hoccurrences, hfiles⟩ := (of?_eq_some_iff framework).mp hdetected
    refine ⟨hname, hoccurrences, hfiles, ?_⟩
    rw [hoccurrences, hfiles]
    exact length_filesWith_le d.framework sources
  · intro framework
    simp only [countIn_all, filesIn_all]
    exact ⟨frequency_append framework sources more, filesWith_append framework sources more⟩

end Detection

end CodeAudit
