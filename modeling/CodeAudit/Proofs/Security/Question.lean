import CodeAudit.Proofs.Report.Page
import CodeAudit.Proofs.Security.LineNumbers
import CodeAudit.Proofs.Text.Cutting

/-!
# What a question shows of a file

The question about a file lists the findings that were made before and shows the beginning of the file
with its lines numbered.  The findings were made on the lines of the whole file, and the numbers are
put in front of the lines of its beginning.  These are the same lines, except that the last one may
have been cut, so a number means the same line in the list and in what is shown.

**Results.**
* `user_reviewPrompt`: the parts of a question.
* `lines_flaggedList`: one line for each finding.
* `getLast?_lines_question_iff`: the last line tells whether the file was cut.
* `question_numbers_lines`: all of it.
-/

namespace CodeAudit
namespace Security

/-! ## The parts of a question -/

/-- What a question says of the file at its beginning. -/
def opening (file : FileRecord) : String :=
  "File: " ++ file.relativePath ++ "\nLanguage: " ++ file.language.getD "unknown" ++ "\n"

/-- What a question says of a finding. -/
def flaggedItem (v : Vulnerability) : String :=
  "- line " ++ toString (v.line.getD 0) ++ ": " ++ v.kind

/-- The title of the list of findings. -/
def flaggedTitle : String := "Pattern matches already flagged (confirm or add to them):"

/-- The list of the findings that were made before; there is none without findings. -/
def flaggedList (flagged : List Vulnerability) : String :=
  if flagged = [] then ""
  else String.join (("" :: flaggedTitle :: flagged.map flaggedItem).map (· ++ "\n"))

/-- A line behind its number. -/
def numberedLine (number : Nat) (line : String) : String :=
  Text.alignRight 5 (toString number) ++ " | " ++ line

/-- Lines behind their numbers, counted from 1. -/
def sourceLines (shown : List String) : String :=
  String.join (shown.mapIdx fun index line => numberedLine (index + 1) line ++ "\n")

/-- What stands behind the lines of a file that was cut. -/
def cutMark : String := "[... file truncated ...]"

section Parts

theorem flaggedLines_eq
    (flagged : List Vulnerability) :
    flaggedLines flagged = String.join ((flagged.map flaggedItem).map (· ++ "\n")) := by
  induction flagged with
  | nil =>
      rfl
  | cons v flagged ih =>
      rw [flaggedLines, ih, List.map_cons, List.map_cons, String.join_cons, flaggedItem]

theorem numberedLines_eq
    (number : Nat)
    (shown : List String) :
    numberedLines number shown =
      String.join (shown.mapIdx fun index line => numberedLine (number + index) line ++ "\n") := by
  induction shown generalizing number with
  | nil =>
      rfl
  | cons line shown ih =>
      have hnext : ∀ index, number + 1 + index = number + (index + 1) := by omega
      rw [numberedLines, ih, List.mapIdx_cons, String.join_cons]
      simp only [hnext, numberedLine, Nat.add_zero]

/-- A question is made of these parts; the mark is there exactly if the file has too many characters. -/
theorem user_reviewPrompt
    (file : FileRecord)
    (content : String)
    (flagged : List Vulnerability)
    (limit : Nat) :
    (reviewPrompt file content flagged limit).user =
      opening file ++ flaggedList flagged ++ "\nSource:\n"
        ++ sourceLines (Text.lines (Text.cut content limit))
        ++ if limit < content.length then cutMark ++ "\n" else "" := by
  have hlist : (if flagged.isEmpty then ""
      else "\nPattern matches already flagged (confirm or add to them):\n" ++ flaggedLines flagged) =
      flaggedList flagged := by
    have htitle : "\nPattern matches already flagged (confirm or add to them):\n" =
        "" ++ "\n" ++ (flaggedTitle ++ "\n") := by decide
    rw [flaggedList, flaggedLines_eq, List.map_cons, List.map_cons, String.join_cons,
      String.join_cons, htitle, String.append_assoc]
    cases flagged <;> rfl
  have hsource := numberedLines_eq 1 (Text.lines (Text.cut content limit))
  simp only [Nat.add_comm 1] at hsource
  have hmark : "[... file truncated ...]\n" = cutMark ++ "\n" := by decide
  rw [reviewPrompt, reviewQuestion, hlist, hsource, hmark, sourceLines, opening]
  simp only [Text.utf8ByteSize_cut_lt_iff]

end Parts

/-! ## The list of findings -/

section Flagged

variable {file : FileRecord} {content : String}

theorem kind_plain
    {rule : Rule}
    (hrule : rule ∈ rules) :
    '\n' ∉ rule.kind.toList ∧ '\r' ∉ rule.kind.toList := by
  have hall : ∀ rule ∈ rules, '\n' ∉ rule.kind.toList ∧ '\r' ∉ rule.kind.toList := by
    decide +kernel
  exact hall rule hrule

/-- What is said of a heuristic finding takes one line. -/
theorem flaggedItem_plain
    {path : String}
    {v : Vulnerability}
    (hv : v ∈ heuristicFindings path content) :
    '\n' ∉ (flaggedItem v).toList ∧ '\r' ∉ (flaggedItem v).toList := by
  obtain ⟨index, -, -, -, rule, hrule, -, rfl⟩ := mem_heuristicFindings_iff.mp hv
  obtain ⟨hfeed, hreturn⟩ := kind_plain hrule
  have hdigits : ∀ c, c.isDigit = false → c ∉ (toString (index + 1)).toList := by
    intro c hc hmem
    rw [Markdown.isDigit_of_mem_digitText hmem] at hc
    cases hc
  have hline : flaggedItem (rule.finding path (index + 1)) =
      "- line " ++ toString (index + 1) ++ ": " ++ rule.kind := rfl
  rw [hline]
  generalize toString (index + 1) = number at hdigits
  simp [hfeed, hreturn, hdigits]

/-- Each heuristic finding has one line in the list. -/
theorem lines_flaggedList
    (path content : String) :
    let flagged := heuristicFindings path content
    Text.lines (flaggedList flagged) =
      if flagged = [] then [] else "" :: flaggedTitle :: flagged.map flaggedItem := by
  intro flagged
  rw [flaggedList]
  split
  · rfl
  · refine Text.lines_join ?_ ?_
    · simp only [List.forall_mem_cons, List.forall_mem_map]
      exact ⟨by decide, by decide, fun v hv => (flaggedItem_plain hv).1⟩
    · simp only [List.forall_mem_cons, List.forall_mem_map]
      exact ⟨by decide, by decide, fun v hv => (flaggedItem_plain hv).2⟩

end Flagged

/-! ## The last line -/

section Last

theorem wholeLines_opening
    (file : FileRecord) :
    Text.WholeLines (opening file) := by
  unfold opening
  exact Text.wholeLines_line _

theorem wholeLines_flaggedList
    (flagged : List Vulnerability) :
    Text.WholeLines (flaggedList flagged) := by
  unfold flaggedList
  split
  · exact .inl rfl
  · refine Text.wholeLines_join ?_
    rw [List.forall_mem_map]
    exact fun line _ => Text.wholeLines_line line

theorem sourceLines_concat
    (shown : List String)
    (line : String) :
    sourceLines (shown ++ [line]) =
      sourceLines shown ++ (numberedLine (shown.length + 1) line ++ "\n") := by
  rw [sourceLines, sourceLines, List.mapIdx_concat, String.join_append, String.join_cons,
    String.join_nil, String.append_empty]

theorem wholeLines_sourceLines
    (shown : List String) :
    Text.WholeLines (sourceLines shown) := by
  refine Text.wholeLines_join ?_
  intro item hitem
  obtain ⟨index, hindex, rfl⟩ := List.mem_mapIdx.mp hitem
  exact Text.wholeLines_line _

/-- Spaces, digits and a bar stand in front of a line. -/
theorem not_mem_margin
    {c : Char}
    (hc : c ≠ ' ' ∧ c ≠ '|' ∧ c.isDigit = false)
    (number : Nat) :
    c ∉ (Text.alignRight 5 (toString number) ++ " | ").toList := by
  have hdigits : c ∉ (toString number).toList := by
    intro hmem
    rw [Markdown.isDigit_of_mem_digitText hmem] at hc
    cases hc.2.2
  generalize toString number = text at hdigits
  simp [Text.alignRight, List.mem_replicate, hc.1, hc.2.1, hdigits]

/-- A numbered line does not begin like the mark. -/
theorem head?_of_mem_lines_numberedLine
    {number : Nat}
    {line found : String}
    (hfeed : '\n' ∉ line.toList)
    (hfound : found ∈ Text.lines (numberedLine number line ++ "\n")) :
    found.toList.head? ≠ some '[' := by
  obtain ⟨cs, hcs, rfl⟩ := List.mem_map.mp hfound
  rw [String.toList_ofList]
  intro hhead
  have hbody : '\n' ∉ (numberedLine number line).toList := by
    rw [numberedLine, String.toList_append, List.mem_append, not_or]
    exact ⟨not_mem_margin (by decide) number, hfeed⟩
  have hend : "\n".toList = ['\n'] := by decide
  have hline := (Text.exists_line_head_iff (by decide) (by decide) _).mp ⟨cs, hcs, hhead⟩
  rw [String.toList_append, hend] at hline
  rcases hline with hbegins | hbreaks
  · -- the margin comes first
    rw [numberedLine, String.toList_append, List.append_assoc, List.head?_append_of_ne_nil] at hbegins
    · exact not_mem_margin (by decide) number (List.mem_of_head? hbegins)
    · simp
  · -- nothing follows the only line feed
    rcases List.infix_concat_iff.mp hbreaks with hsuffix | hinside
    · obtain ⟨more, hmore⟩ := hsuffix
      have hlast := congrArg List.getLast? hmore
      rw [List.getLast?_concat, List.getLast?_append_of_ne_nil _ (by decide)] at hlast
      exact absurd hlast (by decide)
    · exact hbody (hinside.subset List.mem_cons_self)

/-- The last line of a question tells whether the file was cut. -/
theorem getLast?_lines_question_iff
    (file : FileRecord)
    (content : String)
    (flagged : List Vulnerability)
    (limit : Nat) :
    (Text.lines (reviewPrompt file content flagged limit).user).getLast? = some cutMark ↔
      limit < content.length := by
  have hfront := (wholeLines_opening file).append (wholeLines_flaggedList flagged)
  have hsource : Text.WholeLines "\nSource:\n" := by decide
  rw [user_reviewPrompt]
  split
  · next hlong =>
    have hwhole := (hfront.append hsource).append
      (wholeLines_sourceLines (Text.lines (Text.cut content limit)))
    exact iff_of_true (Text.getLast?_lines_append hwhole (by decide) (by decide)) hlong
  · next hshort =>
    refine iff_of_false ?_ hshort
    rw [String.append_empty]
    rcases List.eq_nil_or_concat' (Text.lines (Text.cut content limit)) with hnone | ⟨shown, line, hsome⟩
    · have hsplit : "\nSource:\n" = "" ++ "\n" ++ ("Source:" ++ "\n") := by decide
      have hempty := hfront.append (Text.wholeLines_line "")
      have htitle : '\n' ∉ "Source:".toList := by decide
      have hlast := Text.getLast?_lines_append hempty htitle (by decide)
      rw [hnone, sourceLines, List.mapIdx_nil, String.join_nil, String.append_empty, hsplit,
        ← String.append_assoc, hlast]
      decide
    · have hfeed : '\n' ∉ line.toList :=
        Text.feed_not_mem_of_mem_lines (hsome ▸ List.mem_concat_self)
      have hwhole := (hfront.append hsource).append (wholeLines_sourceLines shown)
      have hsome' : Text.lines (numberedLine (shown.length + 1) line ++ "\n") ≠ [] := by
        rw [← List.length_pos_iff, Text.length_lines (Text.wholeLines_line _), Text.feeds,
          List.count_pos_iff, String.toList_append]
        exact List.mem_concat_self
      rw [hsome, sourceLines_concat, ← String.append_assoc, Text.lines_append hwhole,
        List.getLast?_append_of_ne_nil _ hsome']
      intro hlast
      exact head?_of_mem_lines_numberedLine hfeed (List.mem_of_getLast? hlast) (by decide)

end Last

/-! ## The same lines -/

/-- A line of the beginning of a file is that line of the file, unless it is the last one. -/
theorem getElem?_lines_cut
    {content : String}
    {limit index : Nat}
    (hindex : index + 1 < (Text.lines (Text.cut content limit)).length) :
    (Text.lines (Text.cut content limit))[index]? = (Text.lines content)[index]? := by
  obtain ⟨more, hmore⟩ := Text.dropLast_lines_cut_prefix content limit
  have hlength : index < (Text.lines (Text.cut content limit)).dropLast.length := by
    rw [List.length_dropLast]
    omega
  rw [← hmore, List.getElem?_append_left hlength, List.getElem?_dropLast]
  rw [if_pos (by omega)]

/-- What a question shows of a file of which at most `limit` characters are shown. -/
structure ShowsLines
    (file : FileRecord)
    (content : String)
    (limit : Nat)
    (flagged : List Vulnerability)
    (shown : List String)
    (question : String) : Prop where
  /-- The question is made of these parts. -/
  parts : question =
    opening file ++ flaggedList flagged ++ "\nSource:\n" ++ sourceLines shown
      ++ if limit < content.length then cutMark ++ "\n" else ""
  /-- Without findings there is no list. -/
  unlisted : flagged = [] → flaggedList flagged = ""
  /-- The list has one line for each finding. -/
  listed : flagged ≠ [] →
    Text.lines (flaggedList flagged) = "" :: flaggedTitle :: flagged.map flaggedItem
  /-- Each line but the last one is the line of the file with its number. -/
  kept : ∀ index, index + 1 < shown.length → shown[index]? = (Text.lines content)[index]?
  /-- All lines are those of the file if it is not cut. -/
  whole : content.length ≤ limit → shown = Text.lines content
  /-- The number of a finding means the line on which a rule is met, in the file and in what is shown. -/
  same : ∀ v ∈ flagged, ∃ index line, v.line = some (index + 1) ∧
    flaggedItem v = "- line " ++ toString (index + 1) ++ ": " ++ v.kind ∧
    (Text.lines content)[index]? = some line ∧
    (∃ rule ∈ rules, rule.pattern.foundIn line = true ∧
      v = rule.finding file.relativePath (index + 1)) ∧
    (index + 1 < shown.length ∨ content.length ≤ limit → shown[index]? = some line)
  /-- The last line tells whether the file was cut. -/
  marked : (Text.lines question).getLast? = some cutMark ↔ limit < content.length

/--
A question shows the lines of a file under the numbers that the findings name.

It is made of its opening, the list of the heuristic findings, the lines behind their numbers, counted
from 1, and the mark of a file that was cut.  The list has one line for each finding, in order and with
its number, and it is missing without findings.  The lines are those of the first `limit` characters of
the file or of all of it; each one but the last is the line of the file with this number, and if the
file is not cut, all of them are.  So a number in the list means the line on which the finding was made.
The file was cut exactly if the mark is the last line of the question.
-/
theorem question_numbers_lines
    (file : FileRecord)
    (content : String)
    (limit : Nat) :
    let flagged := heuristicFindings file.relativePath content
    let part := String.ofList (content.toList.take (min limit content.length))
    ShowsLines file content limit flagged (Text.lines part)
      (reviewPrompt file content flagged limit).user := by
  intro flagged part
  have hpart : part = Text.cut content limit := by
    rw [Text.cut, List.take_eq_take_min, String.length_toList]
  have hwhole : content.length ≤ limit → Text.lines part = Text.lines content := by
    intro hle
    rw [hpart, Text.cut_of_length_le hle]
  have hkept : ∀ index, index + 1 < (Text.lines part).length →
      (Text.lines part)[index]? = (Text.lines content)[index]? := by
    rw [hpart]
    exact fun index => getElem?_lines_cut
  have hlist := lines_flaggedList file.relativePath content
  refine ⟨?_, ?_, ?_, hkept, hwhole, ?_, getLast?_lines_question_iff file content flagged limit⟩
  · rw [hpart]
    exact user_reviewPrompt file content flagged limit
  · exact fun hnone => if_pos hnone
  · exact fun hsome => hlist.trans (if_neg hsome)
  · intro v hv
    obtain ⟨index, line, hline, -, rule, hrule, hfound, rfl⟩ := mem_heuristicFindings_iff.mp hv
    refine ⟨index, line, rfl, rfl, hline, ⟨rule, hrule, hfound, rfl⟩, ?_⟩
    rintro (hearly | hle)
    · rw [hkept index hearly, hline]
    · rw [hwhole hle, hline]

end Security
end CodeAudit
