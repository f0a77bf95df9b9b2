import CodeAudit.Report.Markdown
import CodeAudit.Proofs.Text.LineEndings
import Mathlib.Data.List.Infix

/-!
# The headings of a page

A page is read by its headings, the lines that begin with a number sign.  Some of the text of a page is
the program's own, and the rest comes from elsewhere and can bring headings of its own.  `Framed` says
of a text which headings the program writes, and when these are all: it holds of two texts one after
the other if it holds of each of them, so a page is looked at section by section.

**Results.**
* `headings_append`: the headings of two texts, the first of which ends a line.
* `headings_eq_nil_iff`: when a text is without headings.
* `Framed.append`, `Framed.join`: the headings of the program in texts one after another.
-/

namespace CodeAudit
namespace Markdown

/-- A number sign at the beginning. -/
def Begins (text : String) : Prop := text.toList.head? = some '#'

/-- A line feed at the end. -/
def Feeds (text : String) : Prop := text.toList.getLast? = some '\n'

/-- A number sign right after a line feed. -/
def Breaks (text : String) : Prop := ['\n', '#'] <:+: text.toList

/-- What follows the text begins a line. -/
def EndsLine (text : String) : Prop := text = "" ∨ Feeds text

instance (text : String) : Decidable (Begins text) := inferInstanceAs (Decidable (_ = _))

instance (text : String) : Decidable (Feeds text) := inferInstanceAs (Decidable (_ = _))

instance (text : String) : Decidable (Breaks text) := inferInstanceAs (Decidable (_ <:+: _))

instance (text : String) : Decidable (EndsLine text) := inferInstanceAs (Decidable (_ ∨ _))

/-- The headings of a page. -/
def headings (page : String) : List String := (Text.lines page).filter fun line => Begins line

section Texts

variable (a b : String)

theorem begins_append_iff :
    Begins (a ++ b) ↔ Begins a ∨ a = "" ∧ Begins b := by
  rw [Begins, Begins, Begins, String.toList_append, List.head?_append]
  cases hhead : a.toList.head? with
  | none =>
      have hempty : a = "" := String.toList_eq_nil_iff.mp (List.head?_eq_none_iff.mp hhead)
      simp [hempty]
  | some c =>
      have hne : a ≠ "" := by
        rintro rfl
        simp at hhead
      simp [hne]

theorem feeds_append_iff :
    Feeds (a ++ b) ↔ Feeds b ∨ b = "" ∧ Feeds a := by
  rw [Feeds, Feeds, Feeds, String.toList_append, List.getLast?_append]
  cases hlast : b.toList.getLast? with
  | none =>
      have hempty : b = "" := String.toList_eq_nil_iff.mp (List.getLast?_eq_none_iff.mp hlast)
      simp [hempty]
  | some c =>
      have hne : b ≠ "" := by
        rintro rfl
        simp at hlast
      simp [hne]

theorem Feeds.append
    (front : String)
    {back : String}
    (hback : Feeds back) :
    Feeds (front ++ back) :=
  (feeds_append_iff front back).mpr (.inl hback)

theorem breaks_append_iff :
    Breaks (a ++ b) ↔ Breaks a ∨ Breaks b ∨ Feeds a ∧ Begins b := by
  rw [Breaks, Breaks, Breaks, Feeds, Begins, String.toList_append]
  generalize a.toList = a
  generalize b.toList = b
  induction a with
  | nil =>
      simp
  | cons c a ih =>
      rw [List.cons_append, List.infix_cons_iff, ih, List.infix_cons_iff]
      cases a with
      | nil =>
          -- the end of the first text: a number sign may follow in the second one
          have hprefix : ['\n', '#'] <+: c :: b ↔ c = '\n' ∧ b.head? = some '#' := by
            rw [List.cons_prefix_cons, eq_comm]
            cases b with
            | nil =>
                simp
            | cons d b =>
                simp [List.cons_prefix_cons, eq_comm]
          rw [List.nil_append, hprefix]
          simp [List.cons_prefix_cons, or_comm]
      | cons d a =>
          simp [List.cons_prefix_cons, or_assoc]

variable {a b}

/-- A text without line feeds does not break. -/
theorem not_breaks_of_feed_not_mem
    (hfeed : '\n' ∉ a.toList) :
    ¬ Breaks a :=
  fun hbreaks => hfeed (hbreaks.subset List.mem_cons_self)

/-- Headings are looked for on either side of the end of a line. -/
theorem headings_append
    (hends : EndsLine a)
    (b : String) :
    headings (a ++ b) = headings a ++ headings b := by
  rw [headings, headings, headings, ← List.filter_append, Text.lines_append hends]

/-- A text is without headings unless it begins with a number sign or breaks. -/
theorem headings_eq_nil_iff :
    headings a = [] ↔ ¬ Begins a ∧ ¬ Breaks a := by
  have hline : (∃ line ∈ Text.linesOf a.toList, line.head? = some '#') ↔
      a.toList.head? = some '#' ∨ ['\n', '#'] <:+: a.toList :=
    Text.exists_line_head_iff (by decide) (by decide) a.toList
  rw [← not_or, Begins, Breaks, ← hline, headings, Text.lines, List.filter_eq_nil_iff]
  simp [Begins]

/-- A heading with an empty line below it. -/
theorem headings_line
    (hbegins : Begins a)
    (hfeed : '\n' ∉ a.toList)
    (hreturn : a.toList.getLast? ≠ some '\r') :
    headings (a ++ "\n\n") = [a] := by
  have hlines : Text.lines (a ++ "\n\n") = [a, ""] := by
    have hsplit : a ++ "\n\n" = a ++ "\n" ++ "\n" := by
      rw [String.append_assoc]
      rfl
    rw [hsplit, Text.lines_line_append hfeed hreturn]
    rfl
  rw [headings, hlines, List.filter_cons_of_pos (by simpa using hbegins),
    List.filter_cons_of_neg (by decide), List.filter_nil]

end Texts

section Numbers

theorem isDigit_of_mem_digitText
    {n : Nat}
    {c : Char}
    (hc : c ∈ (toString n).toList) :
    c.isDigit := by
  rw [Nat.toString_eq_ofList_toDigits, String.toList_ofList] at hc
  exact Nat.isDigit_of_mem_toDigits (by decide) (by decide) hc

theorem feed_not_mem_toString
    (n : Nat) :
    '\n' ∉ (toString n).toList :=
  fun hc => absurd (isDigit_of_mem_digitText hc) (by decide)

theorem not_begins_toString
    (n : Nat) :
    ¬ Begins (toString n) :=
  fun hbegins => absurd (isDigit_of_mem_digitText (List.mem_of_head? hbegins)) (by decide)

theorem feed_not_mem_placesText
    (places : Nat)
    (q : Rat) :
    '\n' ∉ (Floating.placesText places q).toList := by
  have hdigits : ∀ n, '\n' ∉ Nat.toDigits 10 n := by
    intro n hc
    exact absurd (Nat.isDigit_of_mem_toDigits (by decide) (by decide) hc) (by decide)
  simp only [Floating.placesText]
  split
  · simpa [digitText] using hdigits _
  · simpa [digitText, List.mem_replicate] using ⟨hdigits _, hdigits _⟩

theorem feed_not_mem_fixedText
    (places : Nat)
    (score : Floating) :
    '\n' ∉ (score.fixedText places).toList := by
  cases score with
  | nan =>
      rw [Floating.fixedText]
      decide
  | infinite negative =>
      rw [Floating.fixedText]
      cases negative <;> decide
  | negativeZero =>
      simpa [Floating.fixedText] using feed_not_mem_placesText places 0
  | num value =>
      rw [Floating.fixedText]
      split
      · simpa using feed_not_mem_placesText places (-value)
      · exact feed_not_mem_placesText places value

end Numbers

/-! ## Headings of the program -/

/-- A text that ends a line and has at least as many headings as `own`, and exactly these if and only if
`plain` holds. -/
structure Framed
    (text : String)
    (own : List String)
    (plain : Prop) : Prop where
  ends : EndsLine text
  length_le : own.length ≤ (headings text).length
  headings_eq_iff : headings text = own ↔ plain

namespace Framed

variable {a b : String} {own own' : List String} {plain plain' : Prop}

/-- All headings are the program's own. -/
theorem of_headings
    (hends : EndsLine a)
    (hown : headings a = own) :
    Framed a own True where
  ends := hends
  length_le := by rw [hown]
  headings_eq_iff := by rw [hown, eq_self_iff_true]

/-- No heading is the program's own. -/
theorem of_foreign
    (hends : EndsLine a)
    (hplain : headings a = [] ↔ plain) :
    Framed a [] plain where
  ends := hends
  length_le := Nat.zero_le _
  headings_eq_iff := hplain

/-- The same text, said in another way. -/
theorem congr
    (ha : Framed a own plain)
    (htext : a = b)
    (hown : own = own')
    (hplain : plain ↔ plain') :
    Framed b own' plain' := by
  rwa [← htext, ← hown, ← propext hplain]

/-- Two texts one after the other. -/
theorem append
    (ha : Framed a own plain)
    (hb : Framed b own' plain') :
    Framed (a ++ b) (own ++ own') (plain ∧ plain') := by
  have hheadings := headings_append ha.ends b
  have hlength := ha.length_le
  have hlength' := hb.length_le
  refine ⟨?_, ?_, ?_⟩
  · rcases hb.ends with rfl | hfeeds
    · rw [String.append_empty]
      exact ha.ends
    · exact .inr (hfeeds.append a)
  · rw [hheadings, List.length_append, List.length_append]
    exact Nat.add_le_add hlength hlength'
  · rw [hheadings, ← ha.headings_eq_iff, ← hb.headings_eq_iff]
    constructor
    · intro heq
      -- neither part has too few headings, so neither has too many
      have htotal := congrArg List.length heq
      rw [List.length_append, List.length_append] at htotal
      exact List.append_inj heq (by omega)
    · rintro ⟨hfirst, hsecond⟩
      rw [hfirst, hsecond]

/-- Texts one after another. -/
theorem join
    {α : Type}
    {text : α → String}
    {own : α → List String}
    {plain : α → Prop}
    (items : List α)
    (hitems : ∀ item ∈ items, Framed (text item) (own item) (plain item)) :
    Framed (String.join (items.map text)) (items.flatMap own) (∀ item ∈ items, plain item) := by
  induction items with
  | nil =>
      exact ⟨.inl rfl, le_refl _, by simp; rfl⟩
  | cons item items ih =>
      rw [List.map_cons, String.join_cons, List.flatMap_cons, List.forall_mem_cons]
      exact (hitems item List.mem_cons_self).append
        (ih fun other hother => hitems other (List.mem_cons_of_mem _ hother))

/-- Texts without headings of the program, one after another. -/
theorem join_foreign
    {α : Type}
    {text : α → String}
    {plain : α → Prop}
    (items : List α)
    (hitems : ∀ item ∈ items, Framed (text item) [] (plain item)) :
    Framed (String.join (items.map text)) [] (∀ item ∈ items, plain item) := by
  have hjoin := join items hitems
  rwa [List.flatMap_eq_nil_iff.mpr fun _ _ => rfl] at hjoin

end Framed

end Markdown
end CodeAudit
