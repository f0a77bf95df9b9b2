import CodeAudit.Counting.Names
import CodeAudit.Counting.Total
import CodeAudit.Files.Record
import CodeAudit.Floating.Text

/-!
# Statistics of files

How many files there are, how large they are together, and how many there are of each language.
-/

namespace CodeAudit

/-- The numbers shown after the files have been discovered. -/
structure Statistics where
  totalFiles : Nat
  totalSize : Nat
  /-- How many files there are of each language, in the order of the languages. -/
  languages : List (String × Nat)
  deriving DecidableEq, Inhabited

namespace Statistics

/-- The statistics of files. -/
def of (files : List FileRecord) : Statistics where
  totalFiles := files.length
  totalSize := Counting.total (files.map FileRecord.size)
  languages := Counting.countNames (files.filterMap FileRecord.language)

/-- How many languages are shown. -/
def shownLanguages : Nat := 8

/-- A number of bytes in units of a mebibyte. -/
def mebibytes (bytes : Nat) : Floating := .ofNat bytes / .ofNat (1024 * 1024)

/-- What the console shows: the most frequent languages come first. -/
def summary (s : Statistics) : List String :=
  let languages := s.languages.mergeSort fun a b => decide (b.2 ≤ a.2)
  ["  Total files: " ++ toString s.totalFiles,
   "  Total size: " ++ (mebibytes s.totalSize).fixedText 2 ++ " MB"]
    ++ (languages.take shownLanguages).map fun (language, count) =>
      "    " ++ language ++ ": " ++ toString count ++ " files"

end Statistics

end CodeAudit
