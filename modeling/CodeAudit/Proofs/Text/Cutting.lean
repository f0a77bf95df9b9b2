import CodeAudit.Proofs.Text.LineEndings

/-!
# Texts that are cut

A text is cut after a number of characters, wherever this is: inside a line, or between the two
characters of a line ending.  Nothing but the last line of what is left can tell, since all lines in
front of it are whole lines of the text.

**Results.**
* `toList_cut`, `length_cut`: what is left.
* `utf8ByteSize_cut_lt_iff`: a text that is cut has fewer bytes exactly if it has more characters.
* `dropLast_lines_cut_prefix`: the lines of what is left.
* `feed_not_mem_of_mem_lines`: lines have no line feeds.
-/

namespace CodeAudit
namespace Text

@[simp] theorem toList_cut
    (text : String)
    (limit : Nat) :
    (cut text limit).toList = text.toList.take limit := by
  simp [cut]

@[simp] theorem length_cut
    (text : String)
    (limit : Nat) :
    (cut text limit).length = min limit text.length := by
  rw [← String.length_toList, toList_cut, List.length_take, String.length_toList]

theorem cut_of_length_le
    {text : String}
    {limit : Nat}
    (hle : text.length ≤ limit) :
    cut text limit = text := by
  rw [← String.toList_inj, toList_cut, List.take_of_length_le]
  rwa [String.length_toList]

section Cut

variable (text : String) (limit : Nat)

/-- What is left of a text, and what is cut off. -/
theorem cut_append :
    text = cut text limit ++ String.ofList (text.toList.drop limit) := by
  rw [← String.toList_inj, String.toList_append, toList_cut, String.toList_ofList,
    List.take_append_drop]

/-- Whether something is cut off shows in the number of bytes, too. -/
theorem utf8ByteSize_cut_lt_iff :
    (cut text limit).utf8ByteSize < text.utf8ByteSize ↔ limit < text.length := by
  have hbytes := congrArg String.utf8ByteSize (cut_append text limit)
  rw [String.utf8ByteSize_append] at hbytes
  have hrest : (String.ofList (text.toList.drop limit)).utf8ByteSize = 0 ↔ text.length ≤ limit := by
    rw [String.utf8ByteSize_eq_zero_iff, ← String.toList_eq_nil_iff, String.toList_ofList,
      List.drop_eq_nil_iff, String.length_toList]
  omega

end Cut

/-! ## Lines -/

/-- Without line feeds there is at most one line. -/
theorem foldr_push_of_feed_not_mem
    {text : List Char}
    (hfeed : '\n' ∉ text) :
    text.foldr LineTail.push ⟨[], false⟩ = ⟨if text = [] then [] else [text], false⟩ := by
  induction text with
  | nil =>
      rfl
  | cons c text ih =>
      have hc : c ≠ '\n' := fun heq => hfeed (heq ▸ List.mem_cons_self)
      rw [List.foldr_cons, ih fun hmem => hfeed (List.mem_cons_of_mem c hmem), LineTail.push,
        if_neg hc, Bool.and_false, if_neg Bool.false_ne_true]
      cases text <;> rfl

/-- A text is made of whole lines and a rest without line feeds. -/
theorem exists_wholeLines_append
    (text : List Char) :
    ∃ front back, text = front ++ back ∧ (front = [] ∨ front.getLast? = some '\n') ∧
      '\n' ∉ back := by
  induction text with
  | nil =>
      exact ⟨[], [], rfl, .inl rfl, List.not_mem_nil⟩
  | cons c text ih =>
      obtain ⟨front, back, rfl, hfront, hback⟩ := ih
      by_cases hline : front = [] ∧ c ≠ '\n'
      · -- the first line is not over yet
        obtain ⟨rfl, hc⟩ := hline
        refine ⟨[], c :: back, rfl, .inl rfl, ?_⟩
        simp [hback, Ne.symm hc]
      · refine ⟨c :: front, back, rfl, .inr ?_, hback⟩
        rcases hfront with rfl | hlast
        · simpa using hline
        · rw [List.getLast?_cons, hlast, Option.getD_some]

/-- A text that goes on keeps its lines, the last one apart. -/
theorem dropLast_lines_prefix
    (text more : String) :
    (lines text).dropLast <+: lines (text ++ more) := by
  obtain ⟨front, back, hsplit, hfront, hback⟩ := exists_wholeLines_append text.toList
  have hwhole : WholeLines (String.ofList front) := by
    rcases hfront with rfl | hlast
    · exact .inl rfl
    · exact .inr (by rwa [String.toList_ofList])
  obtain rfl : text = String.ofList front ++ String.ofList back := by
    rw [← String.toList_inj, hsplit]
    simp
  have hrest : lines (String.ofList back) = [] ∨
      lines (String.ofList back) = [String.ofList back] := by
    rw [lines, linesOf, String.toList_ofList, foldr_push_of_feed_not_mem hback]
    split
    · exact .inl rfl
    · exact .inr rfl
  rw [String.append_assoc, lines_append hwhole, lines_append hwhole]
  refine List.IsPrefix.trans ?_ (List.prefix_append _ _)
  rcases hrest with hrest | hrest
  · rw [hrest, List.append_nil]
    exact List.dropLast_prefix _
  · rw [hrest, List.dropLast_concat]

/-- The lines of what is left of a text are those of the text, the last one apart. -/
theorem dropLast_lines_cut_prefix
    (text : String)
    (limit : Nat) :
    (lines (cut text limit)).dropLast <+: lines text := by
  conv_rhs => rw [cut_append text limit]
  exact dropLast_lines_prefix _ _

example : lines (cut "a\r\nb" 2) = ["a\r"] := by decide

theorem feed_not_mem_of_mem_linesOf
    {text line : List Char}
    (hline : line ∈ linesOf text) :
    '\n' ∉ line := by
  induction text generalizing line with
  | nil =>
      exact absurd hline List.not_mem_nil
  | cons c text ih =>
      rw [linesOf] at hline ih
      rw [List.foldr_cons, LineTail.push] at hline
      split at hline
      · rcases List.mem_cons.mp hline with rfl | hline
        · exact List.not_mem_nil
        · exact ih hline
      · next hc =>
        split at hline
        · exact ih hline
        · split at hline
          · obtain rfl := List.mem_singleton.mp hline
            simpa using Ne.symm hc
          · next first others heq =>
            rw [heq] at ih
            rcases List.mem_cons.mp hline with rfl | hline
            · simpa [Ne.symm hc] using ih List.mem_cons_self
            · exact ih (List.mem_cons_of_mem first hline)

theorem feed_not_mem_of_mem_lines
    {text line : String}
    (hline : line ∈ lines text) :
    '\n' ∉ line.toList := by
  obtain ⟨found, hfound, rfl⟩ := List.mem_map.mp hline
  rw [String.toList_ofList]
  exact feed_not_mem_of_mem_linesOf hfound

end Text
end CodeAudit
