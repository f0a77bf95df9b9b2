import CodeAudit.Proofs.Counting
import CodeAudit.Proofs.Text.LineEndings
import CodeAudit.Structure.Count

/-!
# The structure of a file is counted line by line

Each line adds to the counts of a file independently of all others: a line that is neither blank nor a
comment adds its branch points and at most one declaration.  So the counts of a file are sums over its
lines, and they add up where a file is cut at the end of a line.

**Results.**
* `foldl_addLine`, `ofContent_eq`, `sums_ofContent`: the counts as sums over the lines.
* `isControlStatement_of_word`: the lines that begin with a control word.
* `counted_by_line`: how the counts of a file come about.
-/

namespace CodeAudit
namespace FileStructure

/-- What a line declares; a blank line or a comment line declares nothing. -/
def declares? (language line : String) : Option Declaration :=
  if isSilent line then none
  else (LanguagePatterns.of? language).bind fun patterns => declaration? patterns line

/-- The branch points that a line adds; a blank line or a comment line adds none. -/
def branchesAdded (line : String) : Nat := if isSilent line then 0 else branchPoints line

/-- How many lines make a declaration. -/
def declared (language : String) (declaration : Declaration) (lines : List String) : Nat :=
  lines.countP fun line => declares? language line = some declaration

/-- The counts together with those of further lines. -/
def withLines (language : String) (s : FileStructure) (lines : List String) : FileStructure :=
  { s with
    lines := s.lines + lines.length
    functions := s.functions + declared language .function lines
    classes := s.classes + declared language .type lines
    imports := s.imports + declared language .importing lines
    branches := s.branches + Counting.total (lines.map branchesAdded) }

/-- The counts of two parts of a file. -/
def plus (s t : FileStructure) : FileStructure :=
  { s with
    lines := s.lines + t.lines
    functions := s.functions + t.functions
    classes := s.classes + t.classes
    imports := s.imports + t.imports
    branches := s.branches + t.branches }

section Lines

variable (language : String)

theorem declared_singleton
    (declaration : Declaration)
    (line : String) :
    declared language declaration [line] =
      if declares? language line = some declaration then 1 else 0 := by
  simp [declared, List.countP_cons]

theorem declared_append
    (declaration : Declaration)
    (lines lines' : List String) :
    declared language declaration (lines ++ lines') =
      declared language declaration lines + declared language declaration lines' :=
  List.countP_append

theorem addDeclaration_eq
    (s : FileStructure)
    (declaration : Option Declaration) :
    s.addDeclaration declaration =
      { s with
        functions := s.functions + if declaration = some .function then 1 else 0
        classes := s.classes + if declaration = some .type then 1 else 0
        imports := s.imports + if declaration = some .importing then 1 else 0 } := by
  cases declaration with
  | none =>
      rfl
  | some declaration =>
      cases declaration <;> rfl

/-- A line adds what it declares and its branch points. -/
theorem addLine_eq
    (s : FileStructure)
    (line : String) :
    s.addLine (LanguagePatterns.of? language) line = s.withLines language [line] := by
  cases hsilent : isSilent line with
  | true =>
      simp [addLine, withLines, declared_singleton, declares?, branchesAdded, hsilent,
        Counting.total]
  | false =>
      simp [addLine, withLines, declared_singleton, declares?, branchesAdded, hsilent,
        Counting.total, addDeclaration_eq]

theorem withLines_append
    (s : FileStructure)
    (lines lines' : List String) :
    (s.withLines language lines).withLines language lines' =
      s.withLines language (lines ++ lines') := by
  simp only [withLines, declared_append, List.length_append, List.map_append,
    Counting.total_eq_sum, List.sum_append, Nat.add_assoc]

/-- Lines add their numbers, their declarations and their branch points. -/
theorem foldl_addLine
    (lines : List String)
    (s : FileStructure) :
    lines.foldl (addLine (LanguagePatterns.of? language)) s = s.withLines language lines := by
  induction lines generalizing s with
  | nil =>
      rfl
  | cons line rest ih =>
      rw [List.foldl_cons, addLine_eq, ih, withLines_append, List.singleton_append]

/-- The counts of a file are sums over its lines. -/
theorem ofContent_eq
    (path content : String) :
    ofContent path language content =
      (empty path language).withLines language (Text.lines content) :=
  foldl_addLine language _ _

/-- The counts of a file are those of its path. -/
theorem path_ofContent
    (path content : String) :
    (ofContent path language content).path = path := by
  rw [ofContent_eq]
  rfl

/-- A declaration is counted on each line that makes it, and branch points are added up. -/
theorem sums_ofContent
    (path content : String) :
    let t := ofContent path language content
    t.lines = (Text.lines content).length ∧
      t.functions = declared language .function (Text.lines content) ∧
      t.classes = declared language .type (Text.lines content) ∧
      t.imports = declared language .importing (Text.lines content) ∧
      t.branches = Counting.total ((Text.lines content).map branchesAdded) := by
  simp [ofContent_eq, withLines, empty]

theorem withLines_empty_append
    (path : String)
    (lines lines' : List String) :
    (empty path language).withLines language (lines ++ lines') =
      ((empty path language).withLines language lines).plus
        ((empty path language).withLines language lines') := by
  rw [← withLines_append]
  simp [withLines, plus, empty]

/-- A line that counts as a line only makes no difference otherwise. -/
theorem sums_filter_not_silent
    (lines : List String) :
    let loud := lines.filter fun line => !isSilent line
    (∀ declaration, declared language declaration loud = declared language declaration lines) ∧
      Counting.total (loud.map branchesAdded) = Counting.total (lines.map branchesAdded) := by
  induction lines with
  | nil =>
      exact ⟨fun _ => rfl, rfl⟩
  | cons line rest ih =>
      obtain ⟨hdeclared, hbranches⟩ := ih
      simp only [declared] at hdeclared
      cases hsilent : isSilent line with
      | true =>
          have hnone : declares? language line = none := by
            rw [declares?, if_pos hsilent]
          have hzero : branchesAdded line = 0 := by
            rw [branchesAdded, if_pos hsilent]
          rw [Counting.total_eq_sum, Counting.total_eq_sum] at hbranches
          simp [declared, hsilent, hnone, hzero, hdeclared, hbranches, Counting.total_eq_sum]
      | false =>
          rw [Counting.total_eq_sum, Counting.total_eq_sum] at hbranches
          simp [declared, hsilent, hdeclared, hbranches, Counting.total_eq_sum, List.countP_cons]

/-- A line declares one thing at most, and only if it is neither blank nor a comment. -/
theorem declared_le
    (lines : List String) :
    declared language .importing lines + declared language .type lines +
        declared language .function lines ≤
      lines.countP fun line => !isSilent line := by
  induction lines with
  | nil =>
      exact Nat.le_refl 0
  | cons line rest ih =>
      have hline : declared language .importing [line] + declared language .type [line] +
          declared language .function [line] ≤ [line].countP fun line => !isSilent line := by
        rw [declared_singleton, declared_singleton, declared_singleton, List.countP_singleton]
        cases hsilent : isSilent line with
        | true =>
            simp [declares?, hsilent]
        | false =>
            rcases declares? language line with - | declaration
            · simp
            · cases declaration <;> simp
      rw [← List.singleton_append, declared_append, declared_append, declared_append,
        List.countP_append]
      omega

end Lines

section ControlWords

/-- A control word begins with a letter, not with a blank character. -/
theorem controlWords_head :
    ∀ word ∈ controlWords, (word.toList.head?.any fun c => !Text.isBlank c) = true := by
  decide

/-- A line that begins, after blanks, with a control word that ends there. -/
theorem isControlStatement_of_word
    {blanks word rest : String}
    (hblanks : Text.isBlankText blanks = true)
    (hword : word ∈ controlWords)
    (hrest : ∀ c ∈ rest.toList.head?, Text.isAlphanumeric c = false ∧ c ≠ '_') :
    isControlStatement (blanks ++ word ++ rest) = true := by
  have htrim : Text.trimStart (blanks ++ word ++ rest).toList = word.toList ++ rest.toList := by
    rw [Text.isBlankText, List.all_eq_true] at hblanks
    rw [String.toList_append, String.toList_append, List.append_assoc, Text.trimStart,
      List.dropWhile_append_of_pos hblanks]
    obtain ⟨c, hhead, hc⟩ := (Option.any_eq_true _ _).mp (controlWords_head word hword)
    obtain ⟨tail, htail⟩ := List.head?_eq_some_iff.mp hhead
    rw [htail, List.cons_append, List.dropWhile_cons_of_neg (by simpa using hc)]
  rw [isControlStatement, htrim, List.any_eq_true]
  refine ⟨word, hword, ?_⟩
  have hends : rest.toList.head?.all (fun c => !Text.isAlphanumeric c && c != '_') = true := by
    rw [Option.all_eq_true]
    intro c hc
    obtain ⟨halphanumeric, hunderscore⟩ := hrest c hc
    simp [halphanumeric, hunderscore]
  rw [beginsWithWord, List.isPrefixOf_iff_prefix.mpr (List.prefix_append _ _), List.drop_left,
    hends]
  rfl

theorem declares?_of_control
    (language : String)
    {line : String}
    (hcontrol : isControlStatement line = true) :
    declares? language line ≠ some .function := by
  unfold declares?
  split
  · simp
  · rw [ne_eq, Option.bind_eq_some_iff]
    rintro ⟨patterns, -, hdeclaration⟩
    rw [declaration?, hcontrol] at hdeclaration
    split at hdeclaration
    · cases hdeclaration
    · split at hdeclaration
      · cases hdeclaration
      · simp at hdeclaration

end ControlWords

/-- The counts of the files in a language come about line by line. -/
structure CountedByLine (path language : String) : Prop where
  /-- A declaration is counted on each line that makes it, and branch points are added up. -/
  summed : ∀ content,
    let t := ofContent path language content
    t.lines = (Text.lines content).length ∧
      t.functions = declared language .function (Text.lines content) ∧
      t.classes = declared language .type (Text.lines content) ∧
      t.imports = declared language .importing (Text.lines content) ∧
      t.branches = Counting.total ((Text.lines content).map branchesAdded)
  /-- The counts add up where a file is cut at the end of a line. -/
  additive : ∀ a b,
    Text.WholeLines a →
    ofContent path language (a ++ b) =
      (ofContent path language a).plus (ofContent path language b)
  /-- A line adds to at most one of imports, classes and functions. -/
  exclusive : ∀ (s : FileStructure) (line : String),
    let t := s.addLine (LanguagePatterns.of? language) line
    (t.imports, t.classes, t.functions) ∈
      [(s.imports, s.classes, s.functions), (s.imports + 1, s.classes, s.functions),
        (s.imports, s.classes + 1, s.functions), (s.imports, s.classes, s.functions + 1)]
  /-- These three together are at most the lines that are neither blank nor comments. -/
  bounded : ∀ content,
    let t := ofContent path language content
    t.imports + t.classes + t.functions ≤
      (Text.lines content).countP fun line => !isSilent line
  /-- A blank line or a comment line counts as a line and as nothing else. -/
  silent : ∀ (s : FileStructure) (line : String),
    isSilent line = true →
    s.addLine (LanguagePatterns.of? language) line = { s with lines := s.lines + 1 }
  /-- Files that differ in such lines only differ in the number of lines only. -/
  silences : ∀ content content',
    ((Text.lines content).filter fun line => !isSilent line) =
      ((Text.lines content').filter fun line => !isSilent line) →
    ofContent path language content' =
      { ofContent path language content with lines := (Text.lines content').length }
  /-- Nothing is declared in a language that is not known. -/
  unknown : LanguagePatterns.of? language = none → ∀ content,
    let t := ofContent path language content
    t.functions = 0 ∧ t.classes = 0 ∧ t.imports = 0
  /-- A line that begins with a control word is never counted as a function. -/
  control : ∀ blanks word rest,
    Text.isBlankText blanks = true →
    word ∈ controlWords →
    (∀ c ∈ rest.toList.head?, Text.isAlphanumeric c = false ∧ c ≠ '_') →
    let line := blanks ++ word ++ rest
    declares? language line ≠ some .function ∧
      ∀ s, (addLine (LanguagePatterns.of? language) s line).functions = s.functions

/--
The counts of a file come about line by line, in every language.

They add up where the file is cut at the end of a line.  A line adds to at most one of imports, classes
and functions; a blank line or a comment line adds to none of them and has no branch points, and a line
that begins with a control word is no function.
-/
theorem counted_by_line
    (path language : String) :
    CountedByLine path language where
  summed content := sums_ofContent language path content
  additive a b hwhole := by
    rw [ofContent_eq, ofContent_eq, ofContent_eq, Text.lines_append hwhole,
      withLines_empty_append]
  exclusive s line := by
    simp only [addLine_eq, withLines, declared_singleton]
    rcases declares? language line with - | declaration
    · simp
    · cases declaration <;> simp
  bounded content := by
    obtain ⟨-, hfunctions, hclasses, himports, -⟩ := sums_ofContent language path content
    intro t
    rw [himports, hclasses, hfunctions]
    exact declared_le language (Text.lines content)
  silent s line hsilent := by
    rw [addLine, if_pos hsilent]
  silences content content' hloud := by
    obtain ⟨hdeclared, hbranches⟩ := sums_filter_not_silent language (Text.lines content)
    obtain ⟨hdeclared', hbranches'⟩ := sums_filter_not_silent language (Text.lines content')
    simp only [ofContent_eq, withLines, empty, ← hdeclared, ← hdeclared', ← hbranches,
      ← hbranches', hloud, Nat.zero_add]
  unknown hnone content := by
    have hdeclared : ∀ declaration, declared language declaration (Text.lines content) = 0 := by
      intro declaration
      simp [declared, declares?, hnone]
    obtain ⟨-, hfunctions, hclasses, himports, -⟩ := sums_ofContent language path content
    exact ⟨hfunctions.trans (hdeclared _), hclasses.trans (hdeclared _),
      himports.trans (hdeclared _)⟩
  control blanks word rest hblanks hword hrest := by
    have hnone := declares?_of_control language (isControlStatement_of_word hblanks hword hrest)
    refine ⟨hnone, fun s => ?_⟩
    rw [addLine_eq, withLines, declared_singleton, if_neg hnone, Nat.add_zero]

/-- A class with a method, and the control statement behind it, which looks like a method, too. -/
theorem control_statement_behind_method :
    let before := "class A\n  int f(int a)\n"
    let after := "  else if (a)\n"
    Text.WholeLines before ∧
      ofContent "A.java" "java" before = ⟨"A.java", "java", 2, 1, 1, 0, 0⟩ ∧
      ofContent "A.java" "java" (before ++ after) = ⟨"A.java", "java", 3, 1, 1, 0, 1⟩ ∧
      declares? "java" ("  " ++ "else" ++ " if (a)") ≠ some .function := by
  intro before after
  have hlaws := counted_by_line "A.java" "java"
  have hwhole : Text.WholeLines before := by decide
  have hbefore : ofContent "A.java" "java" before = ⟨"A.java", "java", 2, 1, 1, 0, 0⟩ := by
    decide +kernel
  have hafter : ofContent "A.java" "java" after = ⟨"A.java", "java", 1, 0, 0, 0, 1⟩ := by
    decide +kernel
  refine ⟨hwhole, hbefore, ?_, ?_⟩
  · rw [hlaws.additive before after hwhole, hbefore, hafter]
    rfl
  · have hrest : ∀ c ∈ " if (a)".toList.head?, Text.isAlphanumeric c = false ∧ c ≠ '_' := by
      intro c hc
      obtain rfl : ' ' = c := Option.some.inj hc
      decide
    exact (hlaws.control "  " "else" " if (a)" (by decide) (by decide) hrest).1

end FileStructure
end CodeAudit
