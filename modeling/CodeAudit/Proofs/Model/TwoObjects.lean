import CodeAudit.Proofs.Json.Trailing
import CodeAudit.Proofs.Model.Extraction
import CodeAudit.Proofs.Model.Unusable

/-!
# An answer with two objects

The search in an answer goes to the last closing brace, so of two objects it finds both, together
with what stands between them.  A strict reader takes the first object and refuses the rest, whatever
it was to read.  So an answer with two objects is not used at all, not even if one of them alone
would be.

**Results.**
* `TwoObjects.jsonIn_eq`: the two objects are found as one.
* `TwoObjects.read?_eq_none`: nothing is read from them.
* `two_objects_unused`: the reviews, outlines and assessments that are not there, and what is used in
  their place.
-/

namespace CodeAudit
namespace Answer

open Json

/-- A text has two objects in it, with any text between them, no opening brace in front of the first
and no closing brace behind the second. -/
structure TwoObjects
    (before first between second after text : String) : Prop where
  text_eq : text = before ++ first ++ between ++ second ++ after
  unopened : '{' ∉ before.toList
  first_object : Grammar .object first.toList
  second_object : Grammar .object second.toList
  unclosed : '}' ∉ after.toList

/-- An object has its braces. -/
theorem braces_of_object
    {text : List Char}
    (hobject : Grammar .object text) :
    ∃ inner, text = '{' :: (inner ++ ['}']) := by
  cases hobject with
  | emptyObject =>
      exact ⟨_, rfl⟩
  | members =>
      exact ⟨_, rfl⟩

section

variable {before first between second after text : String}

theorem TwoObjects.frames
    (htwo : TwoObjects before first between second after text) :
    Frames before (first ++ (between ++ second)) after text where
  text_eq := by
    rw [htwo.text_eq]
    simp only [String.append_assoc]
  unopened := htwo.unopened
  unclosed := htwo.unclosed
  opens := by
    obtain ⟨inner, hinner⟩ := braces_of_object htwo.first_object
    exact ⟨inner ++ '}' :: (between ++ second).toList, by simp [hinner]⟩
  closes := by
    obtain ⟨inner, hinner⟩ := braces_of_object htwo.second_object
    exact ⟨(first ++ between).toList ++ '{' :: inner, by simp [hinner]⟩

/-- Both objects are found, and what is between them. -/
theorem TwoObjects.jsonIn_eq
    (htwo : TwoObjects before first between second after text) :
    jsonIn text = some (first ++ (between ++ second)) :=
  htwo.frames.jsonIn_eq

/-- No value is read from an answer with two objects. -/
theorem TwoObjects.read?_eq_none
    (htwo : TwoObjects before first between second after text)
    {α : Type}
    (reader : Reader)
    (ofValue? : Value → Option α) :
    read? reader ofValue? text = none := by
  have hmore : ¬ IsBlanks (between ++ second).toList := by
    intro hblanks
    obtain ⟨inner, hinner⟩ := braces_of_object htwo.second_object
    have hmem : '{' ∈ (between ++ second).toList := by simp [hinner]
    exact absurd (hblanks _ hmem) (by decide)
  obtain ⟨fault, hfault⟩ := reader.parse_object_append htwo.first_object hmore
  rw [read?_of_jsonIn reader ofValue? htwo.jsonIn_eq, hfault]
  rfl

/--
An answer with two objects is never used in part.  Whatever is to be read from it, nothing is, so a
default stands in its place.  There is no review of a file, no outline and no assessment, and no value
of any form; the report of a file, the plan of a migration and the report on a provider are what they
are without an answer, and do not count as made with the model.
-/
theorem two_objects_unused
    (htwo : TwoObjects before first between second after text) :
    (∀ (α : Type) (reader : Reader) (ofValue? : Value → Option α) (fallback : α),
      read? reader ofValue? text = none ∧
        (read? reader ofValue? text).getD fallback = fallback ∧
        (read? reader ofValue? text).isSome = false) ∧
    read? Reader.any some text = none ∧
    Security.Review.ofAnswer? text = none ∧
    Migration.Outline.ofAnswer? text = none ∧
    Cloud.Assessment.ofAnswer? text = none ∧
    (∀ file content,
      let report := Security.fileReport file content (Security.Review.ofAnswer? text)
      report.vulnerabilities = Security.heuristicFindings file.relativePath content ∧
        report.modelScore = none ∧
        report.modelSummary = none ∧
        report.riskScore = report.heuristicScore) ∧
    (∀ metadata target detections complexity packaging,
      let planned := Migration.plan metadata target detections complexity packaging
        (Migration.Outline.ofAnswer? text)
      planned.modelUsed = false ∧
        planned.summary = Migration.Outline.default.summary ∧
        planned.risks = Migration.Outline.default.risks ∧
        planned.estimatedWeeks = Migration.heuristicWeeks complexity detections) ∧
    ∀ metadata provider issues packaging,
      let reported := Cloud.report metadata provider issues packaging
        (Cloud.Assessment.ofAnswer? text)
      reported.modelUsed = false ∧
        reported.modelScore = none ∧
        reported.summary = Cloud.Assessment.default.summary ∧
        reported.issues = issues := by
  have hreview : Security.Review.ofAnswer? text = none := htwo.read?_eq_none _ _
  have houtline : Migration.Outline.ofAnswer? text = none := htwo.read?_eq_none _ _
  have hassessment : Cloud.Assessment.ofAnswer? text = none := htwo.read?_eq_none _ _
  refine ⟨?_, htwo.read?_eq_none _ _, hreview, houtline, hassessment, ?_, ?_, ?_⟩
  · intro α reader ofValue? fallback
    have hnone := htwo.read?_eq_none reader ofValue?
    simp [hnone]
  · intro file content
    rw [hreview]
    exact Security.fileReport_without_review file content
  · intro metadata target detections complexity packaging
    rw [houtline]
    obtain ⟨hused, hsummary, hrisks, hweeks, -⟩ :=
      Migration.plan_without_outline metadata target detections complexity packaging
    exact ⟨hused, hsummary, hrisks, hweeks⟩
  · intro metadata provider issues packaging
    rw [hassessment]
    obtain ⟨hused, hscore, -, -, hsummary, hissues, -⟩ :=
      Cloud.report_without_assessment metadata provider issues packaging
    exact ⟨hused, hscore, hsummary, hissues⟩

end

/-! ## Two reviews in one answer -/

/-- Characters that need no escape. -/
theorem isContent_of_plain
    {content : List Char}
    (hplain : content.all (fun c => c != '"' && c != '\\' && !decide (c.toNat < 32)) = true) :
    IsContent content := by
  induction content with
  | nil =>
      exact IsContent.nil
  | cons c rest ih =>
      simp only [List.all_cons, Bool.and_eq_true, bne_iff_ne, Bool.not_eq_true',
        decide_eq_false_iff_not] at hplain
      obtain ⟨⟨⟨hquote, hbackslash⟩, hcontrol⟩, hrest⟩ := hplain
      exact IsContent.plain hquote hbackslash hcontrol (ih hrest)

/-- An object with one member and no blanks. -/
theorem object_of_member
    {key value : List Char}
    (hkey : IsContent key)
    (hvalue : Grammar .value value) :
    Grammar .object ('{' :: (('"' :: (key ++ ['"']) ++ ':' :: value) ++ ['}'])) := by
  have hblanks : IsBlanks [] := by simp [IsBlanks]
  have hname : IsKey ('"' :: (key ++ ['"'])) :=
    ⟨[], '"' :: (key ++ ['"']), [], by simp, hblanks, ⟨key, rfl, hkey⟩, hblanks⟩
  have hitem : Grammar .item ([] ++ (value ++ [])) := Grammar.item hblanks hvalue hblanks
  rw [List.nil_append, List.append_nil] at hitem
  exact Grammar.members (Grammar.lastMember hname hitem)

/-- A review with a score. -/
def scoredReview : String := "\x7b\"risk_score\":9\x7d"

/-- A review with a summary that looks like the end of one object and the beginning of another. -/
def summarisedReview : String := "\x7b\"summary\":\"\x7d, \x7b\"\x7d"

/-- An answer with both reviews. -/
def doubleAnswer : String :=
  "First: " ++ scoredReview ++ "\n\x7d, or else \x7b\n" ++ summarisedReview ++ "\nDone."

/-- Each of the reviews alone is accepted, and the answer with both gives none. -/
theorem double_answer_unused :
    (Security.Review.ofAnswer? scoredReview).isSome = true ∧
      (Security.Review.ofAnswer? summarisedReview).isSome = true ∧
      Security.Review.ofAnswer? doubleAnswer = none ∧
      read? Reader.any some doubleAnswer = none := by
  have hscore : IsNumeral ['9'] :=
    Or.inl ⟨['9'], [], [], rfl, ⟨by decide, List.forall_mem_singleton.mpr rfl⟩, by decide,
      Or.inl rfl, Or.inl rfl⟩
  have hscored : Grammar .object scoredReview.toList := by
    have htext : scoredReview.toList =
        '{' :: (('"' :: ("risk_score".toList ++ ['"']) ++ ':' :: ['9']) ++ ['}']) := by
      decide +kernel
    rw [htext]
    exact object_of_member (isContent_of_plain (by decide +kernel)) (.number hscore)
  have hsummary : IsQuoted "\"\x7d, \x7b\"".toList :=
    ⟨"\x7d, \x7b".toList, by decide +kernel, isContent_of_plain (by decide +kernel)⟩
  have hsummarised : Grammar .object summarisedReview.toList := by
    have htext : summarisedReview.toList =
        '{' :: (('"' :: ("summary".toList ++ ['"']) ++ ':' :: "\"\x7d, \x7b\"".toList) ++ ['}']) := by
      decide +kernel
    rw [htext]
    exact object_of_member (isContent_of_plain (by decide +kernel)) (.string hsummary)
  have htwo : TwoObjects "First: " scoredReview "\n\x7d, or else \x7b\n" summarisedReview
      "\nDone." doubleAnswer :=
    ⟨rfl, by decide +kernel, hscored, hsummarised, by decide +kernel⟩
  obtain ⟨-, hany, hreview, -⟩ := two_objects_unused htwo
  exact ⟨by decide +kernel, by decide +kernel, hreview, hany⟩

end Answer
end CodeAudit
