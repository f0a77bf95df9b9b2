import CodeAudit.Floating.Text
import CodeAudit.Security.Report
import CodeAudit.Security.Review

/-!
# Scanning files

Files are scanned one by one, in order.  A file that cannot be read is skipped.  A file that is
worth a review is shown to the model; a failed or unusable answer counts as no answer.  The risk of
a file is the mean of the heuristic score and the score of the model, if the model gave one.
-/

namespace CodeAudit
namespace Security

/-- What a scan is told: the model, and how many characters of a file it is shown. -/
structure Scanner where
  client : Option Client
  limit : Nat

/-- The reports of the readable files, how many files were skipped, what was shown on the console,
and the prompts of the conversation so far. -/
structure ScanResult where
  reports : List FileSecurityReport
  skipped : Nat
  console : List String
  prompts : List Prompt

/-- The report of a file from its content and the review of the model, if there is one. -/
def fileReport (file : FileRecord) (content : String) (review : Option Review) :
    FileSecurityReport :=
  let flagged := heuristicFindings file.relativePath content
  let heuristic := heuristicScore flagged
  let modelScore := (review.bind Review.riskScore).map (Floating.clamp 0 10)
  let risk :=
    match modelScore with
    | some score => (heuristic + score) / 2
    | none => heuristic
  { file := file.relativePath
    language := file.language
    vulnerabilities :=
      flagged ++ ((review.map Review.findings).getD []).map fun finding =>
        finding.toVulnerability file.relativePath
    heuristicScore := heuristic
    modelScore := modelScore
    riskScore := risk
    severity := .ofScore risk
    modelSummary := review.bind Review.summary }

/-- Asks for a review of a file, if it is worth one. -/
def review (scanner : Scanner) (earlier : List Prompt) (file : FileRecord) (content : String) :
    Option Review × List Prompt :=
  if isReviewed file then
    let flagged := heuristicFindings file.relativePath content
    let (answer, prompts) :=
      ask scanner.client earlier (reviewPrompt file content flagged scanner.limit)
    (answer.bind Review.ofAnswer?, prompts)
  else (none, earlier)

/-- The position of a file among all files. -/
def progress (position total : Nat) : String :=
  "[" ++ toString position ++ "/" ++ toString total ++ "]"

/-- What the console shows for a scanned file. -/
def scannedLine (position total : Nat) (report : FileSecurityReport) : String :=
  let count := report.vulnerabilities.length
  if count = 0 then "  ✓ " ++ progress position total ++ " " ++ report.file
  else
    "  ! " ++ progress position total ++ " " ++ report.file ++ " (" ++ toString count
      ++ " findings, risk " ++ report.riskScore.fixedText 1 ++ ")"

/-- What the console shows for a file that cannot be read. -/
def skippedLine (position total : Nat) (file : FileRecord) : String :=
  "  ✗ " ++ progress position total ++ " " ++ file.relativePath ++ ": failed to read " ++ file.path

/-- Scans files, the first of which has this position among all files. -/
def scanFrom (scanner : Scanner) (read : ReadFile) (total position : Nat)
    (earlier : List Prompt) : List FileRecord → ScanResult
  | [] => ⟨[], 0, [], earlier⟩
  | file :: rest =>
    match read file with
    | none =>
      let result := scanFrom scanner read total (position + 1) earlier rest
      { result with
        skipped := result.skipped + 1
        console := skippedLine position total file :: result.console }
    | some content =>
      let (review, prompts) := review scanner earlier file content
      let report := fileReport file content review
      let result := scanFrom scanner read total (position + 1) prompts rest
      { result with
        reports := report :: result.reports
        console := scannedLine position total report :: result.console }

/-- Scans all files. -/
def scan (scanner : Scanner) (read : ReadFile) (earlier : List Prompt) (files : List FileRecord) :
    ScanResult :=
  scanFrom scanner read files.length 1 earlier files

end Security
end CodeAudit
