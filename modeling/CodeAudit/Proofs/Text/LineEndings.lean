import CodeAudit.Proofs.Text.Lines

/-!
# Whole lines and other line endings

A text of whole lines is empty or ends with a line feed.  Its lines are those of its line feeds, and
what follows it has lines of its own.  The lines of a text without carriage returns stay the same if
every line feed is preceded by a carriage return, and if the last line is closed by a line feed.

**Results.**
* `lines_append`, `length_lines`: a text of whole lines and what follows it.
* `lines_line_append`: one line, its ending and what follows it.
* `lines_join`, `getLast?_lines_append`: lines one after another, and the last one.
* `Reended.lines_eq`: the lines do not depend on how they end.
-/

namespace CodeAudit
namespace Text

/-- A text of whole lines: it is empty, or it ends with a line feed. -/
def WholeLines (text : String) : Prop := text = "" ∨ text.toList.getLast? = some '\n'

instance (text : String) : Decidable (WholeLines text) := inferInstanceAs (Decidable (_ ∨ _))

/-- The number of line feeds in a text. -/
def feeds (text : String) : Nat := text.toList.count '\n'

/-- What is put in front of a line is part of it, and each line feed begins one more line. -/
theorem length_foldr_push
    (line : List Char)
    (rest : List (List Char))
    (feed : Bool)
    (text : List Char) :
    (text.foldr LineTail.push ⟨line :: rest, feed⟩).lines.length =
      rest.length + 1 + text.count '\n' := by
  induction text with
  | nil =>
      rfl
  | cons c text ih =>
      rw [List.foldr_cons]
      generalize text.foldr LineTail.push ⟨line :: rest, feed⟩ = tail at ih ⊢
      obtain ⟨lines, begins⟩ := tail
      simp only at ih
      rw [LineTail.push]
      split
      · next hc =>
        subst hc
        rw [List.count_cons_self, List.length_cons, ih]
        omega
      · next hc =>
        rw [List.count_cons_of_ne hc]
        split
        · exact ih
        · cases lines with
          | nil =>
              simp at ih
              omega
          | cons first others =>
              exact ih

section WholeLines

variable {a : String}

theorem WholeLines.eq_empty_or
    (hwhole : WholeLines a) :
    a = "" ∨ ∃ front, a.toList = front ++ ['\n'] :=
  hwhole.imp_right List.getLast?_eq_some_iff.mp

theorem WholeLines.append
    (ha : WholeLines a)
    {b : String}
    (hb : WholeLines b) :
    WholeLines (a ++ b) := by
  rcases hb with rfl | hfeed
  · rwa [String.append_empty]
  · right
    rw [String.toList_append, List.getLast?_append, hfeed, Option.some_or]

theorem wholeLines_line
    (line : String) :
    WholeLines (line ++ "\n") := by
  right
  rw [String.toList_append]
  exact List.getLast?_concat

theorem wholeLines_join
    {items : List String}
    (hitems : ∀ item ∈ items, WholeLines item) :
    WholeLines (String.join items) := by
  induction items with
  | nil =>
      exact .inl rfl
  | cons item items ih =>
      rw [List.forall_mem_cons] at hitems
      rw [String.join_cons]
      exact hitems.1.append (ih hitems.2)

/-- What follows whole lines has lines of its own. -/
theorem lines_append
    (hwhole : WholeLines a)
    (b : String) :
    lines (a ++ b) = lines a ++ lines b := by
  rcases hwhole.eq_empty_or with rfl | ⟨front, hfront⟩
  · rw [String.empty_append]
    rfl
  · rw [lines, lines, lines, ← List.map_append, String.toList_append, hfront, List.append_assoc,
      List.singleton_append, linesOf_append]

/-- Whole lines are as many as their line feeds. -/
theorem length_lines
    (hwhole : WholeLines a) :
    (lines a).length = feeds a := by
  rcases hwhole.eq_empty_or with rfl | ⟨front, hfront⟩
  · rfl
  · have hend : ['\n'].foldr LineTail.push ⟨[], false⟩ = ⟨[[]], true⟩ := rfl
    rw [lines, List.length_map, linesOf, feeds, hfront, List.foldr_append, hend,
      length_foldr_push, List.count_append, List.count_singleton_self]
    simp [Nat.add_comm]

end WholeLines

/-- A line, its ending and what follows it. -/
theorem lines_line_append
    {line : String}
    (hfeed : '\n' ∉ line.toList)
    (hreturn : line.toList.getLast? ≠ some '\r')
    (after : String) :
    lines (line ++ "\n" ++ after) = line :: lines after := by
  have hline : lines (line ++ "\n") = [line] := by
    have hend : "\n".toList = ['\n'] := by decide
    rw [lines, String.toList_append, hend, linesOf_single hfeed hreturn, List.map_singleton,
      String.ofList_toList]
  rw [lines_append (wholeLines_line line), hline, List.singleton_append]

/-- Lines with their endings, one after another. -/
theorem lines_join
    {items : List String}
    (hfeed : ∀ line ∈ items, '\n' ∉ line.toList)
    (hreturn : ∀ line ∈ items, '\r' ∉ line.toList) :
    lines (String.join (items.map (· ++ "\n"))) = items := by
  induction items with
  | nil =>
      rfl
  | cons line items ih =>
      rw [List.forall_mem_cons] at hfeed hreturn
      rw [List.map_cons, String.join_cons, lines_line_append hfeed.1
        (fun hlast => hreturn.1 (List.mem_of_getLast? hlast)), ih hfeed.2 hreturn.2]

/-- The last line of a text that it ends. -/
theorem getLast?_lines_append
    {front line : String}
    (hfront : WholeLines front)
    (hfeed : '\n' ∉ line.toList)
    (hreturn : line.toList.getLast? ≠ some '\r') :
    (lines (front ++ (line ++ "\n"))).getLast? = some line := by
  have hline := lines_line_append hfeed hreturn ""
  rw [String.append_empty] at hline
  rw [lines_append hfront, hline]
  exact List.getLast?_concat

/-- The text with a carriage return in front of every line feed. -/
def withReturns (text : String) : String :=
  String.ofList (text.toList.flatMap fun c => if c = '\n' then ['\r', '\n'] else [c])

/-- The second text is the first one with other line endings; the first one has no carriage returns. -/
inductive Reended : String → String → Prop
  /-- Every line ends with a carriage return and a line feed. -/
  | returns {text : String} :
      '\r' ∉ text.toList →
      Reended text (withReturns text)
  /-- The last line, which had no ending, ends with a line feed. -/
  | closed {text : String} :
      '\r' ∉ text.toList →
      text ≠ "" →
      text.toList.getLast? ≠ some '\n' →
      Reended text (text ++ "\n")

/-- A carriage return apart, a character is put in front of lines whatever they begin with. -/
theorem lines_push_of_ne_return
    {c : Char}
    (hc : c ≠ '\r')
    (lines : List (List Char))
    (begins begins' : Bool) :
    (LineTail.push c ⟨lines, begins⟩).lines = (LineTail.push c ⟨lines, begins'⟩).lines := by
  simp only [LineTail.push, hc, decide_false, Bool.false_and, Bool.false_eq_true, if_false]

theorem lines_foldr_push_returns
    {text : List Char}
    (hreturn : '\r' ∉ text) :
    ((text.flatMap fun c => if c = '\n' then ['\r', '\n'] else [c]).foldr LineTail.push
        ⟨[], false⟩).lines =
      (text.foldr LineTail.push ⟨[], false⟩).lines := by
  induction text with
  | nil =>
      rfl
  | cons c text ih =>
      have hc : c ≠ '\r' := fun heq => hreturn (heq ▸ List.mem_cons_self)
      have hrest := ih fun hmem => hreturn (List.mem_cons_of_mem c hmem)
      rw [List.flatMap_cons, List.foldr_append, List.foldr_cons]
      generalize (text.flatMap _).foldr LineTail.push ⟨[], false⟩ = tail at hrest ⊢
      generalize text.foldr LineTail.push ⟨[], false⟩ = tail' at hrest ⊢
      obtain ⟨lines, begins⟩ := tail
      obtain ⟨lines', begins'⟩ := tail'
      obtain rfl : lines = lines' := hrest
      split
      · next hfeed =>
        -- the carriage return belongs to the ending that has just been read
        subst hfeed
        rfl
      · exact lines_push_of_ne_return hc lines begins begins'

theorem foldr_push_closed
    {text : List Char}
    (hne : text ≠ [])
    (hfeed : text.getLast? ≠ some '\n')
    (hreturn : text.getLast? ≠ some '\r') :
    (text ++ ['\n']).foldr LineTail.push ⟨[], false⟩ = text.foldr LineTail.push ⟨[], false⟩ := by
  obtain ⟨front, c, rfl⟩ := (List.eq_nil_or_concat' text).resolve_left hne
  rw [List.getLast?_concat, ne_eq, Option.some.injEq] at hfeed hreturn
  have hend : ['\n'].foldr LineTail.push ⟨[], false⟩ = ⟨[[]], true⟩ := rfl
  have hlast : LineTail.push c ⟨[[]], true⟩ = LineTail.push c ⟨[], false⟩ := by
    simp [LineTail.push, hfeed, hreturn]
  rw [List.foldr_append, hend, List.foldr_append, List.foldr_append, List.foldr_cons,
    List.foldr_cons, List.foldr_nil, List.foldr_nil, hlast]

/-- The lines of a text do not depend on how they end. -/
theorem Reended.lines_eq
    {text text' : String}
    (hreended : Reended text text') :
    lines text' = lines text := by
  cases hreended with
  | returns hreturn =>
      rw [lines, lines, withReturns, String.toList_ofList, linesOf, linesOf,
        lines_foldr_push_returns hreturn]
  | closed hreturn hne hopen =>
      have hend : "\n".toList = ['\n'] := by decide
      have hlast : text.toList.getLast? ≠ some '\r' :=
        fun hlast => hreturn (List.mem_of_getLast? hlast)
      rw [lines, lines, String.toList_append, hend, linesOf, linesOf,
        foldr_push_closed (fun hnil => hne (String.toList_eq_nil_iff.mp hnil)) hopen hlast]

end Text
end CodeAudit
