import CodeAudit.Proofs.Migration.Growth

/-!
# The most complex files

The files are ranked by complexity and then by path, and the ranking is cut.  What is cut off stands
behind what is left, so no file that is left out belongs in front of a listed one.  The ranking calls
two files equal only if they have the same path; with distinct paths the order of the files is
forgotten.

The score is half a mean that is computed in three roundings.  It is zero only for a sum of zero: for
as many files as a word of 64 bits counts, a positive sum stays far above the smallest numbers of the
format.

**Results.**
* `leads_mostComplex`: the files that are listed.
* `meanScore_eq_zero_iff`: the score is zero if nothing is complex.
* `summary_ranks_files`: the summary of any files.
-/

namespace CodeAudit
namespace Complexity

open Floating BinaryFormat

/-- A file stands strictly before another one: it is more complex, or as complex with an earlier
path. -/
def Precedes
    (a b : FileStructure) : Prop :=
  b.complexity < a.complexity ∨ a.complexity = b.complexity ∧ a.path < b.path

/-- The listed files are the ten foremost of the given ones. -/
structure Leads
    (structures listed : List FileStructure) : Prop where
  length : listed.length = min 10 structures.length
  /-- The most complex ones stand in front, those that are equally complex in the order of their
  paths. -/
  sorted :
    listed.Pairwise fun a b =>
      b.complexity < a.complexity ∨ a.complexity = b.complexity ∧ a.path ≤ b.path
  /-- All of them are given files, and no file that is left out stands before one of them. -/
  foremost :
    ∃ rest, (listed ++ rest).Perm structures ∧ ∀ a ∈ listed, ∀ b ∈ rest, ¬ Precedes b a

section Ranking

theorem not_precedes_of_listedBefore
    {a b : FileStructure}
    (hab : listedBefore a b) :
    ¬ Precedes b a := by
  rw [listedBefore_iff] at hab
  rintro (hlt | ⟨heq, hlt⟩)
  · rcases hab with hab | ⟨hab, -⟩ <;> omega
  · rcases hab with hab | ⟨-, hab⟩
    · omega
    · exact absurd hlt (String.not_lt.mpr hab)

theorem mostComplex_of
    (structures : List FileStructure) :
    (Complexity.of structures).mostComplex = (structures.mergeSort listedBefore).take 10 := by
  cases structures with
  | nil =>
      rw [List.mergeSort_nil]
      rfl
  | cons first rest =>
      rfl

theorem leads_mostComplex
    (structures : List FileStructure) :
    Leads structures (Complexity.of structures).mostComplex := by
  rw [mostComplex_of]
  constructor
  · rw [List.length_take, List.length_mergeSort]
  · have hsorted := List.pairwise_mergeSort listedBefore_trans listedBefore_total structures
    apply (hsorted.sublist (List.take_sublist 10 _)).imp
    intro a b hab
    exact (listedBefore_iff a b).mp hab
  · obtain ⟨rest, hperm, hbefore⟩ :=
      Sorting.exists_rest_of_take_mergeSort listedBefore_trans listedBefore_total 10 structures
    exact ⟨rest, hperm, fun a ha b hb => not_precedes_of_listedBefore (hbefore a ha b hb)⟩

end Ranking

section Score

variable {files : Nat}

/-- As a number of the format, a count of files is between one and the bound of a word. -/
theorem within_ofNat_files
    (hpos : 0 < files)
    (hfit : files < 2 ^ 64) :
    (ofNat files).Within 1 (2 ^ 64) := by
  have hhigh : double.Holds (2 ^ 64) := by
    simpa using holds_natCast_mul_pow (n := 1) (d := 1) (p := 64) (by decide) (by decide) (by decide)
  have hrounds : Rounds files (ofNat files) := Or.inl rfl
  apply hrounds.within holds_one hhigh
  · exact_mod_cast hpos
  · exact_mod_cast hfit.le

theorem meanScore_of_zero
    (hpos : 0 < files)
    (hfit : files < 2 ^ 64) :
    (meanScore 0 files).value? = some 0 := by
  obtain ⟨count, hcount, hle, -⟩ := within_ofNat_files hpos hfit
  have hmean : (ofNat 0 / ofNat files).value? = some 0 := by
    have hrounds := rounds_div (x := ofNat 0) (a := 0) (by rw [ofNat_eq_num (by decide)]; rfl) hcount
      (by linarith)
    rw [zero_div] at hrounds
    exact hrounds.value?_of_zero
  have hhalf : (ofNat 0 / ofNat files / .num 2).value? = some 0 := by
    have hrounds := rounds_div hmean (y := .num 2) rfl (by norm_num)
    rw [zero_div] at hrounds
    exact hrounds.value?_of_zero
  rw [meanScore, two_eq_num, ten_eq_num, minimum_of_finite hhalf (b := 10) rfl,
    if_neg (by norm_num)]
  exact hhalf

/-- A positive sum over a number of files leaves a positive score. -/
theorem meanScore_of_pos
    {total : Nat}
    (htotal : 0 < total)
    (hpos : 0 < files)
    (hfit : files < 2 ^ 64) :
    (meanScore total files).Within (1 / 2 ^ 64 / 2) 10 := by
  have hsmall : ∀ k : Nat, k ≤ 100 → double.Holds (1 / 2 ^ k) := by
    intro k hk
    refine ⟨?_, 1, -k, ?_, by decide, ?_⟩
    · calc (1 : Rat) / 2 ^ k
          ≤ 1 := div_le_self zero_le_one (one_le_pow₀ one_le_two)
        _ < (2 : Rat) ^ double.overflowExponent := one_lt_zpow₀ one_lt_two (by decide)
    · rw [zpow_neg, zpow_natCast, Nat.cast_one, one_mul, one_div]
    · change (-1074 : Int) ≤ -k
      omega
  have hsum : (ofNat total).NotBelow 1 := by
    have hrounds : Rounds total (ofNat total) := Or.inl rfl
    exact hrounds.notBelow holds_one (by exact_mod_cast htotal)
  have hmean := hsum.div_of_le zero_le_one (within_ofNat_files hpos hfit) one_pos
    (hsmall 64 (by decide))
  have hhalf := hmean.div_num (c := 2) (by norm_num) (by
    rw [div_div, ← pow_succ]
    exact hsmall 65 (by decide))
  rw [meanScore, two_eq_num, ten_eq_num]
  exact within_minimum (Or.inr hhalf) (by norm_num)

theorem meanScore_eq_zero_iff
    (total : Nat)
    (hpos : 0 < files)
    (hfit : files < 2 ^ 64) :
    (meanScore total files).value? = some 0 ↔ total = 0 := by
  constructor
  · intro hzero
    by_contra hne
    obtain ⟨q, hvalue, hlow, -⟩ := meanScore_of_pos (Nat.pos_of_ne_zero hne) hpos hfit
    rw [hzero, Option.some_inj] at hvalue
    rw [← hvalue] at hlow
    exact absurd hlow (by norm_num)
  · rintro rfl
    exact meanScore_of_zero hpos hfit

/-- The score is zero if and only if no file is complex. -/
theorem score_eq_zero_iff
    {structures : List FileStructure}
    (hfit : structures.length < 2 ^ 64) :
    (Complexity.of structures).score.value? = some 0 ↔ ∀ s ∈ structures, s.complexity = 0 := by
  cases structures with
  | nil =>
      simp only [List.not_mem_nil, false_imp_iff, implies_true, iff_true]
      change (0 : Floating).value? = some 0
      rw [zero_eq_num, value?]
  | cons first rest =>
      have hscore : (Complexity.of (first :: rest)).score =
          meanScore (Counting.total ((first :: rest).map FileStructure.complexity))
            (first :: rest).length := rfl
      have hpos : 0 < (first :: rest).length := Nat.succ_pos rest.length
      rw [hscore, meanScore_eq_zero_iff _ hpos hfit, Counting.total_eq_sum, List.sum_eq_zero_iff]
      exact List.forall_mem_map

end Score

/--
The summary of files adds up their counts and lists the ten foremost of them.

The listed files are the most complex ones, in the order of their paths where they are equally
complex, and no file that is left out stands before one of them.  Files with distinct paths have the
same summary in any order.  The score is zero if and only if the complexity of every file is zero, for
as many files as a word of 64 bits counts.
-/
theorem summary_ranks_files
    (structures : List FileStructure)
    (hfit : structures.length < 2 ^ 64) :
    let summary := Complexity.of structures
    summary.filesParsed = structures.length ∧
      summary.totalLines = (structures.map FileStructure.lines).sum ∧
      summary.totalFunctions = (structures.map FileStructure.functions).sum ∧
      summary.totalClasses = (structures.map FileStructure.classes).sum ∧
      summary.totalImports = (structures.map FileStructure.imports).sum ∧
      summary.totalBranches = (structures.map FileStructure.branches).sum ∧
      Leads structures summary.mostComplex ∧
      (∀ structures' : List FileStructure,
        structures.Perm structures' →
          (structures.map FileStructure.path).Nodup → Complexity.of structures' = summary) ∧
      (summary.score.value? = some 0 ↔ ∀ s ∈ structures, s.complexity = 0) := by
  intro summary
  obtain ⟨hfiles, hlines, hfunctions, hclasses, himports, hbranches⟩ := of_sums structures
  refine ⟨hfiles, hlines, hfunctions, hclasses, himports, hbranches, leads_mostComplex structures,
    ?_, score_eq_zero_iff hfit⟩
  intro structures' hperm hdistinct
  exact (of_eq_of_perm hperm hdistinct).symm

/-- A file of a sample project with one function and as many classes as its name is long. -/
def sampleStructure
    (name : String) : FileStructure :=
  ⟨name, "java", 9, 1, name.length, 2, 3⟩

/--
Of twelve files, of which nine are equally complex, the last two by their paths are left out, also if
the files are given in the opposite order.
-/
theorem twelve_files_ranked :
    let structures :=
      ["ccc", "bb", "dd", "a", "e", "f", "g", "h", "i", "j", "k", "l"].map sampleStructure
    let summary := Complexity.of structures
    structures.length < 2 ^ 64 ∧
      (structures.map FileStructure.path).Nodup ∧
      summary.mostComplex = structures.take 10 ∧
      summary.totalClasses = 16 ∧
      Leads structures summary.mostComplex ∧
      Complexity.of structures.reverse = summary ∧
      summary.score.value? ≠ some 0 := by
  intro structures summary
  have hfit : structures.length < 2 ^ 64 := by
    decide
  have hdistinct : (structures.map FileStructure.path).Nodup := by
    decide
  have hsorted : structures.mergeSort listedBefore = structures :=
    List.mergeSort_of_pairwise (by decide +kernel)
  obtain ⟨-, -, -, hclasses, -, -, hleads, hordered, hscore⟩ := summary_ranks_files structures hfit
  refine ⟨hfit, hdistinct, ?_, ?_, hleads,
    hordered structures.reverse (List.reverse_perm structures).symm hdistinct, ?_⟩
  · rw [mostComplex_of, hsorted]
  · rw [hclasses]
    decide
  · rw [ne_eq, hscore]
    decide

end Complexity
end CodeAudit
