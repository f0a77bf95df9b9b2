import CodeAudit.Json.Reader
import CodeAudit.Finding.Record
import CodeAudit.Structure.Language

/-!
# The structure of a file

A file is counted line by line: how many lines, branch points, imports, classes and functions it
has.  Blank lines and comment lines count as lines only, and a line adds to at most one of imports,
classes and functions.  Branch points are found by a scan for branch words that start and end at
the edge of a word; a word that has been counted is skipped.
-/

namespace CodeAudit

open Json

/-- The counts of a file. -/
structure FileStructure where
  path : String
  language : String
  lines : Nat
  functions : Nat
  classes : Nat
  imports : Nat
  branches : Nat
  deriving DecidableEq, Inhabited

namespace FileStructure

/-- The complexity of a file: functions, classes twice, and a quarter of the branch points. -/
def complexity (s : FileStructure) : Nat := s.functions + s.classes * 2 + s.branches / 4

/-- The words that open a branch; at one place the first one that fits is taken. -/
def branchWords : List (List Char) :=
  ["if", "else if", "elif", "for", "foreach", "while", "case", "catch", "except"].map
    String.toList

/-- The length of the branch word that begins the text and ends at the edge of a word. -/
def branchWordLength? (text : List Char) : Option Nat :=
  (branchWords.find? fun word =>
    word.isPrefixOf text && !(text.drop word.length).head?.any Text.isWord).map List.length

/-- Counts the branch words of a text that follows `previous`; the first `skip` characters belong
to a word that has been counted. -/
def branchesAfter (previous : Option Char) (skip : Nat) : List Char → Nat
  | [] => 0
  | c :: rest =>
    match skip with
    | skip + 1 => branchesAfter (some c) skip rest
    | 0 =>
      match if previous.any Text.isWord then none else branchWordLength? (c :: rest) with
      | some length => branchesAfter (some c) (length - 1) rest + 1
      | none => branchesAfter (some c) 0 rest

/-- The branch points of a line. -/
def branchPoints (line : String) : Nat := branchesAfter none 0 line.toList

/-- The pattern of a comment line. -/
def commentLine : TextPattern := TextPattern.lineStartingWith ["//", "#", "*", "/*"]

/-- Whether a line counts as a line only. -/
def isSilent (line : String) : Bool := Text.isBlankText line || commentLine.foundIn line

/-- What a line declares. -/
inductive Declaration where
  | importing
  | type
  | function
  deriving DecidableEq

/-- What a line of a language declares, an import first and a function last. -/
def declaration? (patterns : LanguagePatterns) (line : String) : Option Declaration :=
  if patterns.imports.any fun p => p.foundIn line then some .importing
  else if patterns.classes.any fun p => p.foundIn line then some .type
  else if (patterns.functions.any fun p => p.foundIn line) && !isControlStatement line then
    some .function
  else none

/-- Counts a declaration. -/
def addDeclaration (s : FileStructure) : Option Declaration → FileStructure
  | none => s
  | some .importing => { s with imports := s.imports + 1 }
  | some .type => { s with classes := s.classes + 1 }
  | some .function => { s with functions := s.functions + 1 }

/-- Counts a line. -/
def addLine (patterns : Option LanguagePatterns) (s : FileStructure) (line : String) :
    FileStructure :=
  if isSilent line then { s with lines := s.lines + 1 }
  else
    { s with lines := s.lines + 1, branches := s.branches + branchPoints line }.addDeclaration
      (patterns.bind fun patterns => declaration? patterns line)

/-- A file of which nothing has been counted. -/
def empty (path language : String) : FileStructure := ⟨path, language, 0, 0, 0, 0, 0⟩

/-- The counts of a file with this content. -/
def ofContent (path language content : String) : FileStructure :=
  (Text.lines content).foldl (addLine (LanguagePatterns.of? language)) (empty path language)

/-- The JSON value of the counts. -/
def toValue (s : FileStructure) : Value :=
  .object
    [("path", .text s.path), ("language", .text s.language), ("lines", .ofCount s.lines),
     ("functions", .ofCount s.functions), ("classes", .ofCount s.classes),
     ("imports", .ofCount s.imports), ("branches", .ofCount s.branches)]

/-- Reads the counts of a file. -/
def reader : Reader :=
  Reader.record "FileStructure"
    [.required "path" Reader.text, .required "language" Reader.text,
     .required "lines" (Reader.count 64), .required "functions" (Reader.count 64),
     .required "classes" (Reader.count 64), .required "imports" (Reader.count 64),
     .required "branches" (Reader.count 64)]

/-- The counts of a value. -/
def ofValue? (value : Value) : Option FileStructure := do
  return {
    path := ← value.field? "path" Value.asText?
    language := ← value.field? "language" Value.asText?
    lines := ← value.field? "lines" Value.asCount?
    functions := ← value.field? "functions" Value.asCount?
    classes := ← value.field? "classes" Value.asCount?
    imports := ← value.field? "imports" Value.asCount?
    branches := ← value.field? "branches" Value.asCount? }

end FileStructure

end CodeAudit
