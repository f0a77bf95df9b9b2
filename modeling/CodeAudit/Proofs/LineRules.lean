import CodeAudit.Cloud.Check
import CodeAudit.Proofs.Text.LineEndings
import CodeAudit.Security.Heuristic
import Mathlib.Data.List.FinRange

/-!
# Rules that are tried line by line

The rules of the security audit and those of the cloud audit are tried in the same way: on every line
that is no comment, one after the other, and each rule that is met makes one report with the number of
the line.  `LineRules` is such a list of rules, and what it finds is listed by places, that is by line
numbers and by positions in the list of rules.

**Results.**
* `onLines_eq_map_places`, `mem_places_iff`, `pairwise_places`: what is reported, and in which order.
* `mem_onLines_iff`: each single report.
* `onLines_append`, `onLines_add`: lines in front of others only change their numbers.
* `onLines_congr`: a comment line is as good as any other one.
* `describes`, `line_rules_local`: all of it for the two audits.
-/

namespace CodeAudit

/-- Rules that are tried on every line that is no comment, and what each of them reports. -/
structure LineRules (Rule Finding : Type) where
  comment : TextPattern
  rules : List Rule
  pattern : Rule → TextPattern
  report : Rule → Nat → Finding

namespace LineRules

variable {Rule Finding : Type} (set : LineRules Rule Finding)

/-- The number of a line, and the position of a rule. -/
abbrev Place := Nat × Fin set.rules.length

/-- Whether a rule is met on a line. -/
def isMet (line : String) (index : Fin set.rules.length) : Bool :=
  !set.comment.foundIn line && (set.pattern set.rules[index]).foundIn line

/-- What is reported for a place. -/
def reportAt (place : set.Place) : Finding := set.report set.rules[place.2] place.1

/-- What is reported for a line. -/
def onLine (number : Nat) (line : String) : List Finding :=
  if set.comment.foundIn line then []
  else
    (set.rules.filter fun rule => (set.pattern rule).foundIn line).map fun rule =>
      set.report rule number

/-- What is reported for lines that are numbered from `number` on. -/
def onLines (number : Nat) : List String → List Finding
  | [] => []
  | line :: rest => onLine set number line ++ onLines (number + 1) rest

/-- Where rules are met on lines that are numbered from `number` on. -/
def places (number : Nat) : List String → List set.Place
  | [] => []
  | line :: rest =>
    ((List.finRange set.rules.length).filter (set.isMet line)).map (number, ·)
      ++ places (number + 1) rest

/-- A scan that goes from line to line in this way is the scan with these rules. -/
theorem eq_onLines
    {scan : Nat → List String → List Finding}
    (hnil : ∀ number, scan number [] = [])
    (hcons : ∀ number line rest,
      scan number (line :: rest) = set.onLine number line ++ scan (number + 1) rest)
    (number : Nat)
    (lines : List String) :
    scan number lines = set.onLines number lines := by
  induction lines generalizing number with
  | nil =>
      exact hnil number
  | cons line rest ih =>
      rw [hcons, ih, onLines]

theorem onLine_eq_map_finRange
    (number : Nat)
    (line : String) :
    set.onLine number line =
      ((List.finRange set.rules.length).filter (set.isMet line)).map
        fun index => set.reportAt (number, index) := by
  unfold onLine
  cases hcomment : set.comment.foundIn line with
  | true =>
      simp [isMet, hcomment]
  | false =>
      have hmet : set.isMet line =
          (fun rule => (set.pattern rule).foundIn line) ∘ fun index => set.rules[index] := by
        funext index
        simp [isMet, hcomment]
      have hrules : (List.finRange set.rules.length).map (fun index => set.rules[index]) =
          set.rules :=
        List.map_getElem_finRange set.rules
      rw [if_neg Bool.false_ne_true, hmet]
      conv_lhs => rw [← hrules]
      rw [List.filter_map, List.map_map]
      rfl

/-- There is one report for each place. -/
theorem onLines_eq_map_places
    (number : Nat)
    (lines : List String) :
    set.onLines number lines = (set.places number lines).map set.reportAt := by
  induction lines generalizing number with
  | nil =>
      rfl
  | cons line rest ih =>
      rw [onLines, places, List.map_append, List.map_map, ← ih, onLine_eq_map_finRange]
      rfl

/-- The places are those where a rule is met on a line. -/
theorem mem_places_iff
    {number : Nat}
    {lines : List String}
    {place : set.Place} :
    place ∈ set.places number lines ↔
      ∃ index line, lines[index]? = some line ∧ place.1 = number + index ∧
        set.isMet line place.2 = true := by
  induction lines generalizing number with
  | nil =>
      simp [places]
  | cons first rest ih =>
      obtain ⟨named, rule⟩ := place
      simp only [places, List.mem_append, List.mem_map, List.mem_filter, List.mem_finRange,
        true_and, Prod.mk.injEq, ih]
      constructor
      · rintro (⟨_, hmet, rfl, rfl⟩ | ⟨index, line, hline, rfl, hmet⟩)
        · exact ⟨0, first, rfl, rfl, hmet⟩
        · exact ⟨index + 1, line, hline, by omega, hmet⟩
      · rintro ⟨index, line, hline, rfl, hmet⟩
        cases index with
        | zero =>
            obtain rfl := Option.some.inj hline
            exact .inl ⟨rule, hmet, rfl, rfl⟩
        | succ index =>
            exact .inr ⟨index, line, hline, by omega, hmet⟩

/-- What is reported is reported for a rule that is met on a line which is no comment. -/
theorem mem_onLines_iff
    {number : Nat}
    {lines : List String}
    {finding : Finding} :
    finding ∈ set.onLines number lines ↔
      ∃ index line, lines[index]? = some line ∧ set.comment.foundIn line = false ∧
        ∃ rule ∈ set.rules, (set.pattern rule).foundIn line = true ∧
          finding = set.report rule (number + index) := by
  rw [onLines_eq_map_places, List.mem_map]
  constructor
  · rintro ⟨⟨named, rule⟩, hplace, rfl⟩
    obtain ⟨index, line, hline, rfl, hmet⟩ := set.mem_places_iff.mp hplace
    rw [isMet, Bool.and_eq_true, Bool.not_eq_true'] at hmet
    exact ⟨index, line, hline, hmet.1, set.rules[rule], List.getElem_mem _, hmet.2, rfl⟩
  · rintro ⟨index, line, hline, hcomment, rule, hrule, hfound, rfl⟩
    obtain ⟨position, hposition, rfl⟩ := List.mem_iff_getElem.mp hrule
    refine ⟨(number + index, ⟨position, hposition⟩), ?_, rfl⟩
    exact set.mem_places_iff.mpr ⟨index, line, hline, rfl, by simp [isMet, hcomment, hfound]⟩

/-- The places are ordered by line and then by rule, and none is there twice. -/
theorem pairwise_places
    (number : Nat)
    (lines : List String) :
    (set.places number lines).Pairwise (Prod.Lex (· < ·) (· < ·)) := by
  induction lines generalizing number with
  | nil =>
      exact List.Pairwise.nil
  | cons line rest ih =>
      rw [places, List.pairwise_append]
      refine ⟨?_, ih (number + 1), ?_⟩
      · rw [List.pairwise_map]
        exact ((List.pairwise_lt_finRange _).filter _).imp fun hlt => Prod.Lex.right _ hlt
      · intro place hplace later hlater
        obtain ⟨index, -, rfl⟩ := List.mem_map.mp hplace
        obtain ⟨offset, _, -, hoffset, -⟩ := set.mem_places_iff.mp hlater
        exact Prod.Lex.left _ _ (by omega)

/-- Lines that stand behind others are counted on. -/
theorem onLines_append
    (number : Nat)
    (lines lines' : List String) :
    set.onLines number (lines ++ lines') =
      set.onLines number lines ++ set.onLines (number + lines.length) lines' := by
  induction lines generalizing number with
  | nil =>
      rfl
  | cons line rest ih =>
      rw [List.cons_append, onLines, onLines, ih, List.append_assoc, List.length_cons,
        Nat.add_assoc, Nat.add_comm 1]

section Later

variable {later : Nat → Finding → Finding}
variable (hlater : ∀ rule number count,
  set.report rule (number + count) = later count (set.report rule number))

include hlater

/-- Counting lines from a later number on moves the reports. -/
theorem onLines_add
    (number count : Nat)
    (lines : List String) :
    set.onLines (number + count) lines = (set.onLines number lines).map (later count) := by
  induction lines generalizing number with
  | nil =>
      rfl
  | cons line rest ih =>
      have hline : set.onLine (number + count) line =
          (set.onLine number line).map (later count) := by
        rw [onLine_eq_map_finRange, onLine_eq_map_finRange, List.map_map]
        exact List.map_congr_left fun index _ => hlater _ _ _
      rw [onLines, onLines, List.map_append, hline, Nat.add_right_comm, ih]

end Later

/-- Two texts with the same lines, except that comment lines may be other comment lines. -/
def CommentsReplaced (content content' : String) : Prop :=
  List.Forall₂
    (fun line line' =>
      line' = line ∨ set.comment.foundIn line = true ∧ set.comment.foundIn line' = true)
    (Text.lines content) (Text.lines content')

/-- Nothing is reported for a comment, whatever it says. -/
theorem onLines_congr
    {content content' : String}
    (hcomments : set.CommentsReplaced content content')
    (number : Nat) :
    set.onLines number (Text.lines content') = set.onLines number (Text.lines content) := by
  unfold CommentsReplaced at hcomments
  generalize Text.lines content = lines at hcomments
  generalize Text.lines content' = lines' at hcomments
  induction hcomments generalizing number with
  | nil =>
      rfl
  | cons hline hrest ih =>
      rw [onLines, onLines, ih]
      rcases hline with rfl | ⟨hcomment, hcomment'⟩
      · rfl
      · rw [onLine, onLine, if_pos hcomment, if_pos hcomment']

/-- A comment line between whole lines is replaced by another one. -/
theorem commentsReplaced_of_line
    {before line line' : String}
    (hbefore : Text.WholeLines before)
    (hfeed : '\n' ∉ line.toList)
    (hreturn : line.toList.getLast? ≠ some '\r')
    (hcomment : set.comment.foundIn line = true)
    (hfeed' : '\n' ∉ line'.toList)
    (hreturn' : line'.toList.getLast? ≠ some '\r')
    (hcomment' : set.comment.foundIn line' = true)
    (after : String) :
    set.CommentsReplaced (before ++ (line ++ "\n" ++ after)) (before ++ (line' ++ "\n" ++ after)) := by
  rw [CommentsReplaced, Text.lines_append hbefore, Text.lines_append hbefore,
    Text.lines_line_append hfeed hreturn, Text.lines_line_append hfeed' hreturn']
  have hsame : ∀ lines : List String, List.Forall₂
      (fun line line' =>
        line' = line ∨ set.comment.foundIn line = true ∧ set.comment.foundIn line' = true)
      lines lines :=
    fun lines => List.forall₂_same.mpr fun _ _ => .inl rfl
  exact List.rel_append (hsame _) (List.Forall₂.cons (.inr ⟨hcomment, hcomment'⟩) (hsame _))

/--
A check of texts is what these rules report, line by line.

`line` is the number in a finding, and `later` moves a finding down by a number of lines.
-/
structure Describes
    (line : Finding → Option Nat)
    (later : Nat → Finding → Finding)
    (check : String → List Finding) : Prop where
  /-- Whole lines are checked apart from what follows them. -/
  append : ∀ a b,
    Text.WholeLines a →
    check (a ++ b) = check a ++ (check b).map (later (Text.feeds a))
  /-- There is one finding for each rule that is met on a line, by line and then by rule. -/
  inOrder : ∀ content, ∃ places : List set.Place,
    places.Pairwise (Prod.Lex (· < ·) (· < ·)) ∧
      (∀ place, place ∈ places ↔
        ∃ index text, (Text.lines content)[index]? = some text ∧ place.1 = index + 1 ∧
          set.comment.foundIn text = false ∧
            (set.pattern set.rules[place.2]).foundIn text = true) ∧
      check content = places.map set.reportAt
  /-- A finding names a line that is there. -/
  numbered : ∀ content, ∀ finding ∈ check content, ∃ number,
    line finding = some number ∧ 1 ≤ number ∧ number ≤ (Text.lines content).length
  /-- It does not matter what a comment says. -/
  comments : ∀ content content',
    set.CommentsReplaced content content' →
    check content' = check content

/-- What rules report line by line, if a report names its line and nothing else depends on it. -/
theorem describes
    {line : Finding → Option Nat}
    {later : Nat → Finding → Finding}
    {check : String → List Finding}
    (hline : ∀ rule number, line (set.report rule number) = some number)
    (hlater : ∀ rule number count,
      set.report rule (number + count) = later count (set.report rule number))
    (hcheck : ∀ content, check content = set.onLines 1 (Text.lines content)) :
    set.Describes line later check where
  append a b hwhole := by
    rw [hcheck, hcheck, hcheck, Text.lines_append hwhole, onLines_append,
      onLines_add set hlater, Text.length_lines hwhole]
  inOrder content := by
    refine ⟨set.places 1 (Text.lines content), set.pairwise_places _ _, ?_, ?_⟩
    · intro place
      simp [mem_places_iff, isMet, Nat.add_comm 1]
    · rw [hcheck, onLines_eq_map_places]
  numbered content finding hfinding := by
    rw [hcheck, mem_onLines_iff] at hfinding
    obtain ⟨index, text, htext, -, rule, -, -, rfl⟩ := hfinding
    obtain ⟨hindex, -⟩ := List.getElem?_eq_some_iff.mp htext
    exact ⟨1 + index, hline _ _, by omega, by omega⟩
  comments content content' hcomments := by
    rw [hcheck, hcheck, set.onLines_congr hcomments]

end LineRules

/-- The vulnerability, a number of lines further down. -/
def Vulnerability.later (count : Nat) (v : Vulnerability) : Vulnerability :=
  { v with line := v.line.map (· + count) }

/-- The issue, a number of lines further down. -/
def CloudIssue.later (count : Nat) (issue : CloudIssue) : CloudIssue :=
  { issue with line := issue.line.map (· + count) }

/-- The rules of the security audit, tried on the lines of a file. -/
def Security.lineRules (path : String) : LineRules Security.Rule Vulnerability where
  comment := Security.commentLine
  rules := Security.rules
  pattern := Security.Rule.pattern
  report rule number := rule.finding path number

/-- The rules of the cloud audit, tried on the lines of a file. -/
def Cloud.lineRules (path : String) : LineRules Cloud.Rule CloudIssue where
  comment := Cloud.commentLine
  rules := Cloud.rules
  pattern := Cloud.Rule.pattern
  report rule number := rule.issue path number

theorem Security.findingsFrom_eq
    (path : String)
    (number : Nat)
    (lines : List String) :
    Security.findingsFrom path number lines = (Security.lineRules path).onLines number lines :=
  LineRules.eq_onLines _ (fun _ => rfl) (fun _ _ _ => rfl) number lines

theorem Cloud.issuesFrom_eq
    (path : String)
    (number : Nat)
    (lines : List String) :
    Cloud.issuesFrom path number lines = (Cloud.lineRules path).onLines number lines :=
  LineRules.eq_onLines _ (fun _ => rfl) (fun _ _ _ => rfl) number lines

/-- A heuristic finding is that of a rule, on a line that the rule matches. -/
theorem Security.mem_findingsFrom_iff
    {path : String}
    {number : Nat}
    {lines : List String}
    {v : Vulnerability} :
    v ∈ Security.findingsFrom path number lines ↔
      ∃ index line, lines[index]? = some line ∧ Security.commentLine.foundIn line = false ∧
        ∃ rule ∈ Security.rules, rule.pattern.foundIn line = true ∧
          v = rule.finding path (number + index) := by
  rw [Security.findingsFrom_eq]
  exact LineRules.mem_onLines_iff _

/-- An issue on a line is that of a rule that the line matches. -/
theorem Cloud.mem_issuesFrom_iff
    {path : String}
    {number : Nat}
    {lines : List String}
    {issue : CloudIssue} :
    issue ∈ Cloud.issuesFrom path number lines ↔
      ∃ index line, lines[index]? = some line ∧ Cloud.commentLine.foundIn line = false ∧
        ∃ rule ∈ Cloud.rules, rule.pattern.foundIn line = true ∧
          issue = rule.issue path (number + index) := by
  rw [Cloud.issuesFrom_eq]
  exact LineRules.mem_onLines_iff _

/--
The heuristic findings in a file and its issues for the cloud are found line by line.

A text that ends a line is checked apart from what follows it, whose findings only get other numbers.
There is exactly one finding for each rule that is met on a line which is no comment; the findings are
ordered by line and then by rule, and each of them names a line that is there.  A comment line may be
replaced by any other one.
-/
theorem line_rules_local
    (path : String) :
    (Security.lineRules path).Describes Vulnerability.line Vulnerability.later
        (Security.heuristicFindings path) ∧
      (Cloud.lineRules path).Describes CloudIssue.line CloudIssue.later
        (Cloud.fileIssues path) := by
  constructor
  · exact LineRules.describes _ (fun _ _ => rfl) (fun _ _ _ => rfl)
      fun content => Security.findingsFrom_eq path 1 (Text.lines content)
  · exact LineRules.describes _ (fun _ _ => rfl) (fun _ _ _ => rfl)
      fun content => Cloud.issuesFrom_eq path 1 (Text.lines content)

/-- Two comments, and a seam between calls that are found, one of them behind a line of its own. -/
theorem calls_found_across_seam :
    let call := "eval(a)\n"
    let before := "\n" ++ ("# one" ++ "\n" ++ call)
    let other := "\n" ++ ("-- eval" ++ "\n" ++ call)
    let after := "\r\neval(b)"
    Text.WholeLines before ∧
      (Security.lineRules "a.py").CommentsReplaced before other ∧
      Security.heuristicFindings "a.py" before = [Security.codeInjection.finding "a.py" 3] ∧
      Security.heuristicFindings "a.py" other = [Security.codeInjection.finding "a.py" 3] ∧
      Security.heuristicFindings "a.py" (before ++ after) =
        [Security.codeInjection.finding "a.py" 3, Security.codeInjection.finding "a.py" 5] := by
  intro call before other after
  have hlaws := (line_rules_local "a.py").1
  have hwhole : Text.WholeLines before := by decide
  have hcomments : (Security.lineRules "a.py").CommentsReplaced before other :=
    LineRules.commentsReplaced_of_line _ (by decide) (by decide) (by decide) (by decide +kernel)
      (by decide) (by decide) (by decide +kernel) call
  have hbefore : Security.heuristicFindings "a.py" before =
      [Security.codeInjection.finding "a.py" 3] := by
    decide +kernel
  have hafter : Security.heuristicFindings "a.py" after =
      [Security.codeInjection.finding "a.py" 2] := by
    decide +kernel
  refine ⟨hwhole, hcomments, hbefore, ?_, ?_⟩
  · rw [hlaws.comments before other hcomments, hbefore]
  · have hfeeds : Text.feeds before = 3 := by decide
    rw [hlaws.append before after hwhole, hbefore, hafter, hfeeds]
    rfl

end CodeAudit
