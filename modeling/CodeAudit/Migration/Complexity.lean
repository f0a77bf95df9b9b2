import CodeAudit.Counting.Total
import CodeAudit.Structure.Count

/-!
# The complexity of a codebase

The structures of the files are added up, and the files that are most complex are listed.
-/

namespace CodeAudit

open Json

/-- The sums over all files, a score from 0 to 10, and the most complex files. -/
structure Complexity where
  filesParsed : Nat
  totalLines : Nat
  totalFunctions : Nat
  totalClasses : Nat
  totalImports : Nat
  totalBranches : Nat
  /-- A higher score is harder to migrate. -/
  score : Floating
  mostComplex : List FileStructure
  deriving DecidableEq, Inhabited

namespace Complexity

/-- No file has been parsed. -/
def none : Complexity := ⟨0, 0, 0, 0, 0, 0, 0, []⟩

/-- Whether a file is listed before another one: by complexity, then by path. -/
def listedBefore (a b : FileStructure) : Bool :=
  b.complexity < a.complexity || a.complexity == b.complexity && !decide (b.path < a.path)

/-- How many of the most complex files are listed. -/
def listed : Nat := 10

/-- The score of a sum over a number of files: half the mean, at most 10. -/
def meanScore (total files : Nat) : Floating :=
  (.ofNat total / .ofNat files / 2 : Floating).minimum 10

/-- The complexity of the given files. -/
def of (structures : List FileStructure) : Complexity :=
  if structures.isEmpty then none
  else
    { filesParsed := structures.length
      totalLines := Counting.total (structures.map FileStructure.lines)
      totalFunctions := Counting.total (structures.map FileStructure.functions)
      totalClasses := Counting.total (structures.map FileStructure.classes)
      totalImports := Counting.total (structures.map FileStructure.imports)
      totalBranches := Counting.total (structures.map FileStructure.branches)
      score := meanScore (Counting.total (structures.map FileStructure.complexity)) structures.length
      mostComplex := (structures.mergeSort listedBefore).take listed }

/-- The JSON value of a complexity. -/
def toValue (c : Complexity) : Value :=
  .object
    [("files_parsed", .ofCount c.filesParsed), ("total_lines", .ofCount c.totalLines),
     ("total_functions", .ofCount c.totalFunctions), ("total_classes", .ofCount c.totalClasses),
     ("total_imports", .ofCount c.totalImports), ("total_branches", .ofCount c.totalBranches),
     ("complexity_score", .real c.score),
     ("most_complex", .list (c.mostComplex.map FileStructure.toValue))]

/-- Reads a complexity. -/
def reader : Reader :=
  Reader.record "ComplexitySummary"
    [.required "files_parsed" (Reader.count 64), .required "total_lines" (Reader.count 64),
     .required "total_functions" (Reader.count 64), .required "total_classes" (Reader.count 64),
     .required "total_imports" (Reader.count 64), .required "total_branches" (Reader.count 64),
     .required "complexity_score" Reader.real,
     .required "most_complex" (Reader.list FileStructure.reader)]

/-- The complexity of a value. -/
def ofValue? (value : Value) : Option Complexity := do
  return {
    filesParsed := ← value.field? "files_parsed" Value.asCount?
    totalLines := ← value.field? "total_lines" Value.asCount?
    totalFunctions := ← value.field? "total_functions" Value.asCount?
    totalClasses := ← value.field? "total_classes" Value.asCount?
    totalImports := ← value.field? "total_imports" Value.asCount?
    totalBranches := ← value.field? "total_branches" Value.asCount?
    score := ← value.field? "complexity_score" Value.asReal?
    mostComplex := ← value.field? "most_complex" (Value.asListOf? FileStructure.ofValue?) }

end Complexity

end CodeAudit
