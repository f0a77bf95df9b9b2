import CodeAudit.Text.Character
import Mathlib.Data.List.Basic
import Mathlib.Data.List.TakeWhile

/-!
# The words of a text

The words of a text are the maximal runs of word characters in it.  A character that is no word
character separates what stands before it from what stands behind it, so the words of two texts one
after the other are those of either of them, unless a word of the first one goes on in the second one.

**Results.**
* `wordRuns_append_cons`, `wordRuns_append`: the words on either side of a place where none goes on.
* `wordRuns_run`: a run of word characters is one word.
* `exists_run`: the word at the beginning of a text.
-/

namespace CodeAudit
namespace Text

/-- The maximal runs of word characters in a text. -/
def wordRuns (text : List Char) : List (List Char) :=
  (text.splitOnP fun c => !isWord c).filter fun run => !run.isEmpty

/-- A word character at the beginning. -/
def beginsInWord (text : List Char) : Bool := text.head?.any isWord

/-- A word character at the end. -/
def endsInWord (text : List Char) : Bool := text.getLast?.any isWord

theorem wordRuns_append_cons
    {c : Char}
    (hc : isWord c = false)
    (before after : List Char) :
    wordRuns (before ++ c :: after) = wordRuns before ++ wordRuns after := by
  rw [wordRuns, List.splitOnP_append_cons before after (by simpa using hc), List.filter_append]
  rfl

theorem wordRuns_cons
    {c : Char}
    (hc : isWord c = false)
    (after : List Char) :
    wordRuns (c :: after) = wordRuns after :=
  wordRuns_append_cons hc [] after

/-- A run of word characters is one word. -/
theorem wordRuns_run
    {run : List Char}
    (hne : run ≠ [])
    (hrun : ∀ c ∈ run, isWord c = true) :
    wordRuns run = [run] := by
  have hsplit : run.splitOnP (fun c => !isWord c) = [run] :=
    List.splitOnP_eq_singleton fun c hc => by simp [hrun c hc]
  rw [wordRuns, hsplit, List.filter_cons_of_pos (by simpa using hne), List.filter_nil]

/-- The words of two texts, unless a word of the first one goes on in the second one. -/
theorem wordRuns_append
    {before after : List Char}
    (hseam : endsInWord before = false ∨ beginsInWord after = false) :
    wordRuns (before ++ after) = wordRuns before ++ wordRuns after := by
  rcases hseam with hends | hbegins
  · rcases List.eq_nil_or_concat' before with rfl | ⟨front, c, rfl⟩
    · rfl
    · have hc : isWord c = false := by simpa [endsInWord] using hends
      rw [List.append_assoc, List.singleton_append, wordRuns_append_cons hc,
        wordRuns_append_cons hc]
      exact (congrArg (· ++ wordRuns after) (List.append_nil _)).symm
  · cases after with
    | nil =>
        rw [List.append_nil]
        exact (List.append_nil _).symm
    | cons c after =>
        have hc : isWord c = false := by simpa [beginsInWord] using hbegins
        rw [wordRuns_append_cons hc, wordRuns_cons hc]

/-- What is left behind a run of word characters does not begin in a word. -/
theorem beginsInWord_dropWhile
    (text : List Char) :
    beginsInWord (text.dropWhile isWord) = false := by
  have hhead := List.head?_dropWhile_not isWord text
  cases hfirst : (text.dropWhile isWord).head? with
  | none =>
      rw [beginsInWord, hfirst]
      rfl
  | some c =>
      rw [hfirst] at hhead
      rw [beginsInWord, hfirst]
      exact hhead

theorem dropWhile_of_beginsInWord
    {text : List Char}
    (hbegins : beginsInWord text = false) :
    text.dropWhile isWord = text := by
  cases text with
  | nil =>
      rfl
  | cons c text =>
      exact List.dropWhile_cons_of_neg (by simpa [beginsInWord] using hbegins)

/-- A text that begins with a word character begins with a whole word. -/
theorem exists_run
    {c : Char}
    (hc : isWord c = true)
    (rest : List Char) :
    ∃ run after, c :: rest = run ++ after ∧ run ≠ [] ∧ (∀ d ∈ run, isWord d = true) ∧
      beginsInWord after = false := by
  refine ⟨c :: rest.takeWhile isWord, rest.dropWhile isWord, ?_, List.cons_ne_nil _ _, ?_,
    beginsInWord_dropWhile rest⟩
  · rw [List.cons_append, List.takeWhile_append_dropWhile]
  · exact List.forall_mem_cons.mpr ⟨hc, fun d => List.mem_takeWhile_imp⟩

end Text
end CodeAudit
