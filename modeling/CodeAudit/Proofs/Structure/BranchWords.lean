import CodeAudit.Proofs.Structure.Counts
import CodeAudit.Proofs.Text.Words

/-!
# Branch points are words

Branch points are found by a scan for branch words, one of which is a phrase of two words and one of
which begins with another one.  Here they are told by the words of a line, the maximal runs of word
characters in it: a branch point is a word that is one of eight.  The scan keeps in step with the words
because a branch word is only taken from the beginning of a word to the end of a word; inside of a word
it passes over the rest of that word.

**Results.**
* `countBranchRuns_append`, `countBranchRuns_run_append`: the words that count in texts one after another.
* `branchesAfter_inside`, `branchesAfter_taken`, `branchesAfter_run`: the steps of the scan.
* `branchesAfter_eq`: what the scan counts.
* `branch_points_are_words`: the branch points of a line and of a file.
-/

namespace CodeAudit
namespace FileStructure

open Text

/-- The words that count as branch points. -/
def branchRuns : List (List Char) :=
  ["if", "elif", "for", "foreach", "while", "case", "catch", "except"].map String.toList

/-- How many words of a text count as branch points. -/
def countBranchRuns (text : List Char) : Nat :=
  (wordRuns text).countP fun run => branchRuns.contains run

theorem countBranchRuns_append
    {before after : List Char}
    (hseam : endsInWord before = false ∨ beginsInWord after = false) :
    countBranchRuns (before ++ after) = countBranchRuns before + countBranchRuns after := by
  rw [countBranchRuns, wordRuns_append hseam, List.countP_append]
  rfl

/-- A word in front of a text is counted if it is one of those that count. -/
theorem countBranchRuns_run_append
    {run after : List Char}
    (hne : run ≠ [])
    (hrun : ∀ c ∈ run, isWord c = true)
    (hafter : beginsInWord after = false) :
    countBranchRuns (run ++ after) = (if run ∈ branchRuns then 1 else 0) + countBranchRuns after := by
  rw [countBranchRuns_append (.inr hafter), countBranchRuns, wordRuns_run hne hrun,
    List.countP_singleton]
  simp

/-- A branch word holds one such word, begins a word, and ends in one. -/
theorem branchWords_run :
    ∀ word ∈ branchWords, word ≠ [] ∧ beginsInWord word = true ∧ endsInWord word = true ∧
      countBranchRuns word = 1 := by
  decide +kernel

theorem branchRuns_subset :
    ∀ run ∈ branchRuns, run ∈ branchWords := by
  decide

/-- The branch word that is taken stands at the beginning and is not inside of a longer word. -/
theorem exists_of_branchWordLength?_eq_some
    {text : List Char}
    {length : Nat}
    (hlength : branchWordLength? text = some length) :
    ∃ word ∈ branchWords, ∃ after,
      text = word ++ after ∧ word.length = length ∧ beginsInWord after = false := by
  obtain ⟨word, hfind, rfl⟩ := Option.map_eq_some_iff.mp hlength
  have hfits := List.find?_some hfind
  rw [Bool.and_eq_true, List.isPrefixOf_iff_prefix] at hfits
  obtain ⟨⟨after, rfl⟩, hends⟩ := hfits
  rw [List.drop_left] at hends
  refine ⟨word, List.mem_of_find?_eq_some hfind, after, rfl, rfl, ?_⟩
  rwa [Bool.not_eq_true'] at hends

/-- A word that counts is taken. -/
theorem not_mem_of_branchWordLength?_eq_none
    {run after : List Char}
    (hafter : beginsInWord after = false)
    (hnone : branchWordLength? (run ++ after) = none) :
    run ∉ branchRuns := by
  intro hrun
  rw [branchWordLength?, Option.map_eq_none_iff, List.find?_eq_none] at hnone
  apply hnone run (branchRuns_subset run hrun)
  rw [List.isPrefixOf_iff_prefix.mpr (List.prefix_append run after), List.drop_left, Bool.true_and,
    ← beginsInWord, hafter]
  rfl

section Scan

/-- No branch word is taken where no word begins. -/
theorem branchWordLength?_of_not_word
    {c : Char}
    (hc : isWord c = false)
    (rest : List Char) :
    branchWordLength? (c :: rest) = none := by
  cases hlength : branchWordLength? (c :: rest) with
  | none =>
      rfl
  | some length =>
      obtain ⟨word, hword, after, htext, -, -⟩ := exists_of_branchWordLength?_eq_some hlength
      obtain ⟨hne, hbegins, -, -⟩ := branchWords_run word hword
      obtain ⟨first, tail, rfl⟩ := List.exists_cons_of_ne_nil hne
      rw [List.cons_append, List.cons.injEq] at htext
      obtain ⟨rfl, -⟩ := htext
      rw [beginsInWord, List.head?_cons, Option.any_some, hc] at hbegins
      cases hbegins

theorem branchesAfter_outside
    {previous : Option Char}
    (hprevious : previous.any isWord = false)
    (text : List Char) :
    branchesAfter previous 0 text = branchesAfter none 0 text := by
  cases text with
  | nil =>
      rfl
  | cons c rest =>
      rw [branchesAfter, branchesAfter, hprevious]
      rfl

theorem branchesAfter_passed
    {c : Char}
    {rest : List Char}
    (hnone : branchWordLength? (c :: rest) = none) :
    branchesAfter none 0 (c :: rest) = branchesAfter (some c) 0 rest := by
  rw [branchesAfter, hnone]
  rfl

/-- Inside of a word nothing is counted. -/
theorem branchesAfter_inside
    {previous : Option Char}
    (hprevious : previous.any isWord = true)
    (text : List Char) :
    branchesAfter previous 0 text = branchesAfter none 0 (text.dropWhile isWord) := by
  induction text generalizing previous with
  | nil =>
      rfl
  | cons c rest ih =>
      have hstep : branchesAfter previous 0 (c :: rest) = branchesAfter (some c) 0 rest := by
        rw [branchesAfter, hprevious]
        rfl
      rw [hstep]
      cases hc : isWord c with
      | true =>
          have hinside : (some c).any isWord = true := hc
          rw [ih hinside, List.dropWhile_cons_of_pos hc]
      | false =>
          rw [List.dropWhile_cons_of_neg (by simp [hc]),
            branchesAfter_passed (branchWordLength?_of_not_word hc rest)]

/-- A branch word that has been counted is passed over. -/
theorem branchesAfter_skip
    (first : Char)
    (word after : List Char) :
    branchesAfter (some first) word.length (word ++ after) =
      branchesAfter (first :: word).getLast? 0 after := by
  induction word generalizing first with
  | nil =>
      rfl
  | cons c word ih =>
      rw [List.length_cons, List.cons_append, branchesAfter, ih, List.getLast?_cons_cons]

/-- A branch word that is taken counts once, and the scan goes on behind it. -/
theorem branchesAfter_taken
    {word after : List Char}
    (hword : word ∈ branchWords)
    (hafter : beginsInWord after = false)
    (hlength : branchWordLength? (word ++ after) = some word.length) :
    branchesAfter none 0 (word ++ after) = branchesAfter none 0 after + 1 := by
  obtain ⟨hne, -, hends, -⟩ := branchWords_run word hword
  obtain ⟨first, tail, rfl⟩ := List.exists_cons_of_ne_nil hne
  rw [List.cons_append] at hlength ⊢
  calc
    branchesAfter none 0 (first :: (tail ++ after))
    _ = branchesAfter (some first) tail.length (tail ++ after) + 1 := by
        rw [branchesAfter, hlength]
        rfl
    _ = branchesAfter (first :: tail).getLast? 0 after + 1 := by
        rw [branchesAfter_skip]
    _ = branchesAfter none 0 after + 1 := by
        rw [branchesAfter_inside hends, dropWhile_of_beginsInWord hafter]

/-- A whole word at which nothing is taken is passed over. -/
theorem branchesAfter_run
    {run after : List Char}
    (hne : run ≠ [])
    (hrun : ∀ c ∈ run, isWord c = true)
    (hafter : beginsInWord after = false)
    (hnone : branchWordLength? (run ++ after) = none) :
    branchesAfter none 0 (run ++ after) = branchesAfter none 0 after := by
  obtain ⟨first, tail, rfl⟩ := List.exists_cons_of_ne_nil hne
  obtain ⟨hfirst, htail⟩ := List.forall_mem_cons.mp hrun
  have hinside : (some first).any isWord = true := hfirst
  rw [List.cons_append] at hnone ⊢
  rw [branchesAfter_passed hnone, branchesAfter_inside hinside,
    List.dropWhile_append_of_pos htail, dropWhile_of_beginsInWord hafter]

theorem length_lt_append
    {run : List Char}
    (hne : run ≠ [])
    (after : List Char) :
    after.length < (run ++ after).length := by
  have hpos := List.length_pos_iff.mpr hne
  rw [List.length_append]
  omega

/-- The scan counts the words that count as branch points. -/
theorem branchesAfter_eq
    (text : List Char) :
    branchesAfter none 0 text = countBranchRuns text := by
  -- a word is passed over at once, whether it is counted or not, so the induction is on the length
  induction hn : text.length using Nat.strong_induction_on generalizing text with
  | _ n ih =>
    subst hn
    cases text with
    | nil =>
        rfl
    | cons c rest =>
        cases hlength : branchWordLength? (c :: rest) with
        | some length =>
            obtain ⟨word, hword, after, htext, rfl, hafter⟩ :=
              exists_of_branchWordLength?_eq_some hlength
            obtain ⟨hne, -, -, hone⟩ := branchWords_run word hword
            rw [htext] at hlength ih ⊢
            rw [branchesAfter_taken hword hafter hlength, ih _ (length_lt_append hne after) _ rfl,
              countBranchRuns_append (.inr hafter), hone, Nat.add_comm]
        | none =>
            cases hc : isWord c with
            | false =>
                have houtside : (some c).any isWord = false := hc
                rw [branchesAfter_passed hlength, branchesAfter_outside houtside,
                  ih rest.length (by simp) rest rfl, countBranchRuns, countBranchRuns,
                  wordRuns_cons hc]
            | true =>
                obtain ⟨run, after, htext, hne, hrun, hafter⟩ := exists_run hc rest
                rw [htext] at hlength ih ⊢
                rw [branchesAfter_run hne hrun hafter hlength,
                  ih _ (length_lt_append hne after) _ rfl,
                  countBranchRuns_run_append hne hrun hafter,
                  if_neg (not_mem_of_branchWordLength?_eq_none hafter hlength), Nat.zero_add]

theorem branchPoints_eq
    (line : String) :
    branchPoints line = countBranchRuns line.toList :=
  branchesAfter_eq line.toList

end Scan

/--
The branch points of a line are those of its words that are one of eight.

A line that is neither blank nor a comment adds one branch point for each such word, the maximal runs of
word characters in it being its words, and a file has the branch points of these lines.  Whatever stands
before and after a word, it counts once if it is one of the eight and not at all otherwise; so `else if`
counts once.
-/
theorem branch_points_are_words :
    (∀ language s line,
      isSilent line = false →
      (addLine (LanguagePatterns.of? language) s line).branches =
        s.branches + (wordRuns line.toList).countP fun run => branchRuns.contains run) ∧
    (∀ path language content,
      (ofContent path language content).branches =
        Counting.total (((Text.lines content).filter fun line => !isSilent line).map fun line =>
          (wordRuns line.toList).countP fun run => branchRuns.contains run)) ∧
    (∀ before word after : String,
      endsInWord before.toList = false →
      word ≠ "" →
      (∀ c ∈ word.toList, isWord c = true) →
      beginsInWord after.toList = false →
      branchPoints (before ++ word ++ after) =
        branchPoints before + (if word.toList ∈ branchRuns then 1 else 0) + branchPoints after) ∧
    (∀ before after : String,
      endsInWord before.toList = false →
      beginsInWord after.toList = false →
      branchPoints (before ++ "else if" ++ after) = branchPoints before + 1 + branchPoints after) := by
  refine ⟨?_, ?_, ?_, ?_⟩
  · intro language s line hloud
    rw [addLine_eq, withLines, List.map_singleton, branchesAdded, hloud]
    exact congrArg (s.branches + ·) (branchPoints_eq line)
  · intro path language content
    obtain ⟨-, hloud⟩ := sums_filter_not_silent language (Text.lines content)
    obtain ⟨-, -, -, -, hbranches⟩ := sums_ofContent language path content
    have hlines : ((Text.lines content).filter fun line => !isSilent line).map branchesAdded =
        ((Text.lines content).filter fun line => !isSilent line).map fun line =>
          countBranchRuns line.toList := by
      apply List.map_congr_left
      intro line hline
      have hloudline : isSilent line = false := by simpa using (List.mem_filter.mp hline).2
      rw [branchesAdded, hloudline]
      exact branchPoints_eq line
    rw [hbranches, ← hloud, hlines]
    rfl
  · intro before word after hbefore hne hword hafter
    have hchars : word.toList ≠ [] := fun hnil => hne (String.toList_eq_nil_iff.mp hnil)
    rw [branchPoints_eq, branchPoints_eq, branchPoints_eq, String.toList_append,
      String.toList_append, List.append_assoc, countBranchRuns_append (.inl hbefore),
      countBranchRuns_run_append hchars hword hafter, Nat.add_assoc]
  · intro before after hbefore hafter
    have hphrase : countBranchRuns "else if".toList = 1 := by decide +kernel
    rw [branchPoints_eq, branchPoints_eq, branchPoints_eq, String.toList_append,
      String.toList_append, List.append_assoc, countBranchRuns_append (.inl hbefore),
      countBranchRuns_append (.inr hafter), hphrase, Nat.add_assoc]

-- `if` of the phrase and `foreach` count, `cases` and the `if` behind a letter do not
example : branchPoints "; else if (cases) foreach(éif)" = 2 := by decide +kernel

end FileStructure
end CodeAudit
