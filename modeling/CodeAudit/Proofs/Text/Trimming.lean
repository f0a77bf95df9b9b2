import CodeAudit.Text.Line
import Mathlib.Data.List.TakeWhile

/-!
# Blanks at the ends of a text

Trimming cuts a text into three parts, of which the first and the last are blank and the one in the
middle neither begins nor ends with a blank character.  Nothing is left of a blank text.

**Results.**
* `exists_trim`: only blank characters are taken off.
* `trimmed_trim`: none is left at either end.
* `trim_eq_empty_iff`: the texts of which nothing is left.
-/

namespace CodeAudit
namespace Text

/-- A text that neither begins nor ends with a blank character. -/
def Trimmed (text : String) : Prop :=
  (∀ c ∈ text.toList.head?, isBlank c = false) ∧ ∀ c ∈ text.toList.getLast?, isBlank c = false

section

variable {text : List Char}

theorem head?_trimStart :
    ∀ c ∈ (trimStart text).head?, isBlank c = false := by
  intro c hc
  have hhead := List.head?_dropWhile_not isBlank text
  rw [trimStart, Option.mem_def] at hc
  rw [hc] at hhead
  exact hhead

theorem getLast?_trimEnd :
    ∀ c ∈ (trimEnd text).getLast?, isBlank c = false := by
  rw [trimEnd, List.getLast?_reverse]
  exact head?_trimStart

/-- A text is cut in front of the blanks at its end. -/
theorem exists_trimEnd
    (text : List Char) :
    ∃ after, text = trimEnd text ++ after ∧ ∀ c ∈ after, isBlank c = true := by
  refine ⟨(text.reverse.takeWhile isBlank).reverse, ?_, ?_⟩
  · rw [trimEnd, ← List.reverse_append, List.takeWhile_append_dropWhile, List.reverse_reverse]
  · intro c hc
    exact List.mem_takeWhile_imp (List.mem_reverse.mp hc)

/-- A text that begins with no blank still begins with none without the blanks at its end. -/
theorem head?_trimEnd
    (htext : ∀ c ∈ text.head?, isBlank c = false) :
    ∀ c ∈ (trimEnd text).head?, isBlank c = false := by
  obtain ⟨after, hafter, -⟩ := exists_trimEnd text
  intro c hc
  apply htext
  rw [hafter, List.head?_append, Option.mem_def, Option.mem_def.mp hc]
  rfl

end

theorem isBlankText_ofList_iff
    {text : List Char} :
    isBlankText (String.ofList text) = true ↔ ∀ c ∈ text, isBlank c = true := by
  simp [isBlankText]

theorem isBlankText_append
    (before after : String) :
    isBlankText (before ++ after) = (isBlankText before && isBlankText after) := by
  simp [isBlankText]

/-- Trimming takes nothing but blank characters off a text. -/
theorem exists_trim
    (text : String) :
    ∃ before after, text = before ++ trim text ++ after ∧
      isBlankText before = true ∧ isBlankText after = true := by
  obtain ⟨after, hafter, hblank⟩ := exists_trimEnd (trimStart text.toList)
  refine ⟨String.ofList (text.toList.takeWhile isBlank), String.ofList after, ?_,
    isBlankText_ofList_iff.mpr fun c => List.mem_takeWhile_imp, isBlankText_ofList_iff.mpr hblank⟩
  apply String.toList_inj.mp
  simp only [trim, String.toList_append, String.toList_ofList, List.append_assoc]
  rw [← hafter, trimStart, List.takeWhile_append_dropWhile]

theorem trimmed_trim
    (text : String) :
    Trimmed (trim text) := by
  rw [Trimmed, trim, String.toList_ofList]
  exact ⟨head?_trimEnd head?_trimStart, getLast?_trimEnd⟩

/-- What is left is blank only if the text is. -/
theorem isBlankText_of_trim
    {text : String}
    (hblank : isBlankText (trim text) = true) :
    isBlankText text = true := by
  obtain ⟨before, after, htext, hbefore, hafter⟩ := exists_trim text
  rw [htext, isBlankText_append, isBlankText_append, hbefore, hblank, hafter]
  rfl

/-- Nothing is left of a blank text. -/
theorem trim_eq_empty_iff
    {text : String} :
    trim text = "" ↔ isBlankText text = true := by
  constructor
  · intro hempty
    apply isBlankText_of_trim
    rw [hempty]
    rfl
  · intro hblank
    have hnil : trimStart text.toList = [] := by
      rw [trimStart, List.dropWhile_eq_nil_iff]
      simpa [isBlankText] using hblank
    rw [trim, hnil]
    rfl

end Text
end CodeAudit
