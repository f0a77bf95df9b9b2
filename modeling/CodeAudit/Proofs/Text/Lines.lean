import CodeAudit.Text.Line
import Mathlib.Data.List.Infix

/-!
# Where lines begin

The lines of a text are found from its end.  Here they are described from its beginning: a text that
ends a line can be cut off, a text without line feeds is one line, and a line begins with a character
other than the two of line endings exactly where the text begins with it or has it after a line feed.

**Results.**
* `linesOf_append`: the lines of two texts, the first of which ends a line.
* `linesOf_single`: one line and its ending.
* `exists_line_head_iff`, `head?_of_first_line`: where a line begins with a character.
-/

namespace CodeAudit
namespace Text

/-- Lines that are already known stay behind what is put in front of them. -/
theorem foldr_push_cons
    (line : List Char)
    (rest : List (List Char))
    (feed : Bool)
    (text : List Char) :
    ∃ first others begins,
      text.foldr LineTail.push ⟨[line], feed⟩ = ⟨first :: others, begins⟩ ∧
        text.foldr LineTail.push ⟨line :: rest, feed⟩ = ⟨first :: (others ++ rest), begins⟩ := by
  induction text with
  | nil =>
      exact ⟨line, [], feed, rfl, rfl⟩
  | cons c text ih =>
      obtain ⟨first, others, begins, halone, hbefore⟩ := ih
      rw [List.foldr_cons, List.foldr_cons, halone, hbefore, LineTail.push, LineTail.push]
      split
      · exact ⟨[], first :: others, true, rfl, rfl⟩
      · split
        · exact ⟨first, others, false, rfl, rfl⟩
        · exact ⟨c :: first, others, false, rfl, rfl⟩

/-- A text that ends a line is cut into lines apart from what follows. -/
theorem linesOf_append
    (text rest : List Char) :
    linesOf (text ++ '\n' :: rest) = linesOf (text ++ ['\n']) ++ linesOf rest := by
  obtain ⟨first, others, begins, halone, hbefore⟩ :=
    foldr_push_cons [] (linesOf rest) true text
  have hfeed : ('\n' :: rest).foldr LineTail.push ⟨[], false⟩ = ⟨[] :: linesOf rest, true⟩ := rfl
  have hend : ['\n'].foldr LineTail.push ⟨[], false⟩ = ⟨[[]], true⟩ := rfl
  rw [linesOf, linesOf, List.foldr_append, List.foldr_append, hfeed, hend, halone, hbefore]
  rfl

/-- A text without line feeds and with an ending is one line. -/
theorem linesOf_single
    {text : List Char}
    (hfeed : '\n' ∉ text)
    (hreturn : text.getLast? ≠ some '\r') :
    linesOf (text ++ ['\n']) = [text] := by
  have hline : text.foldr LineTail.push ⟨[[]], true⟩ = ⟨[text], text.isEmpty⟩ := by
    induction text with
    | nil =>
        rfl
    | cons c text ih =>
        have hc : c ≠ '\n' := fun heq => hfeed (heq ▸ List.mem_cons_self)
        have hlast : ¬ (c = '\r' ∧ text = []) := by
          rintro ⟨rfl, rfl⟩
          exact hreturn rfl
        have hrest : text.foldr LineTail.push ⟨[[]], true⟩ = ⟨[text], text.isEmpty⟩ := by
          refine ih (fun hmem => hfeed (List.mem_cons_of_mem c hmem)) ?_
          intro hend
          cases text with
          | nil =>
              exact absurd hend (by simp)
          | cons d text =>
              exact hreturn (by rw [List.getLast?_cons_cons, hend])
        rw [List.foldr_cons, hrest, LineTail.push, if_neg hc, if_neg (by simpa using hlast)]
        rfl
  have hend : ['\n'].foldr LineTail.push ⟨[], false⟩ = ⟨[[]], true⟩ := rfl
  rw [linesOf, List.foldr_append, hend, hline]

section Mark

variable {mark : Char} (hfeed : mark ≠ '\n') (hreturn : mark ≠ '\r')

omit hfeed hreturn in
theorem infix_cons_mark_iff
    (c : Char)
    (text : List Char) :
    ['\n', mark] <:+: c :: text ↔
      c = '\n' ∧ text.head? = some mark ∨ ['\n', mark] <:+: text := by
  rw [List.infix_cons_iff, List.cons_prefix_cons, eq_comm (a := '\n')]
  cases text with
  | nil =>
      simp
  | cons d text =>
      simp [List.cons_prefix_cons, eq_comm]

include hfeed hreturn

/-- The first line begins as the text does, and the other ones begin after line feeds. -/
theorem foldr_push_heads
    (text : List Char) :
    let tail := text.foldr LineTail.push ⟨[], false⟩
    (tail.beginsWithFeed = true → text.head? = some '\n') ∧
      (tail.lines.head?.bind List.head? = some mark ↔ text.head? = some mark) ∧
      ((∃ line ∈ tail.lines.tail, line.head? = some mark) ↔ ['\n', mark] <:+: text) := by
  induction text with
  | nil =>
      simp
  | cons c text ih =>
      obtain ⟨hbegins, hfirst, hothers⟩ := ih
      rw [List.foldr_cons, infix_cons_mark_iff]
      generalize text.foldr LineTail.push ⟨[], false⟩ = tail at hbegins hfirst hothers ⊢
      obtain ⟨lines, feed⟩ := tail
      rw [LineTail.push]
      split
      · -- a line feed: what was the first line is now one of the others
        next hc =>
        subst hc
        refine ⟨fun _ => rfl, ⟨by simp, fun hhead => ?_⟩, ?_⟩
        · exact absurd (Option.some.inj hhead).symm hfeed
        · cases lines with
          | nil =>
              simpa [← hfirst] using hothers
          | cons first others =>
              simpa [← hfirst] using or_congr_right hothers
      · next hc =>
        split
        · -- the first character of a line ending
          next hend =>
          obtain ⟨hcr, hflag⟩ : c = '\r' ∧ feed = true := by simpa using hend
          subst hcr
          refine ⟨by simp, ⟨fun hhead => ?_, fun hhead => ?_⟩, by simpa using hothers⟩
          · rw [hbegins hflag] at hfirst
            exact absurd (Option.some.inj (hfirst.mp hhead)).symm hfeed
          · exact absurd (Option.some.inj hhead).symm hreturn
        · cases lines with
          | nil =>
              exact ⟨by simp, by simp, by simpa [hc] using hothers⟩
          | cons first others =>
              exact ⟨by simp, by simp, by simpa [hc] using hothers⟩

/-- A line begins with a character exactly where the text does or a line feed stands before it. -/
theorem exists_line_head_iff
    (text : List Char) :
    (∃ line ∈ linesOf text, line.head? = some mark) ↔
      text.head? = some mark ∨ ['\n', mark] <:+: text := by
  obtain ⟨-, hfirst, hothers⟩ := foldr_push_heads hfeed hreturn text
  rw [← hfirst, ← hothers, linesOf]
  cases (text.foldr LineTail.push ⟨[], false⟩).lines with
  | nil =>
      simp
  | cons first others =>
      simp

/-- The first line begins as the text does. -/
theorem head?_of_first_line
    {line text : String}
    (hline : (lines text)[0]? = some line)
    (hmark : line.toList.head? = some mark) :
    text.toList.head? = some mark := by
  obtain ⟨-, hfirst, -⟩ := foldr_push_heads hfeed hreturn text.toList
  rw [← hfirst]
  rw [lines, List.getElem?_map, Option.map_eq_some_iff] at hline
  obtain ⟨first, hfirstLine, rfl⟩ := hline
  rw [String.toList_ofList] at hmark
  rw [← linesOf, List.head?_eq_getElem?, hfirstLine, Option.bind_some, hmark]

end Mark

end Text
end CodeAudit
