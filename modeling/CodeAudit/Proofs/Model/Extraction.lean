import CodeAudit.Model.Answer
import Mathlib.Data.List.TakeWhile

/-!
# The JSON object of an answer

The object of an answer reaches from its first opening brace to its last closing brace.  `Frames`
says this without any search: the object begins with an opening brace and ends with a closing one, no
opening brace is in front of it and no closing brace is behind it.  There is at most one such object,
it is what the search finds, and the search finds nothing only if there is none.  So what stands
around an object may be anything without braces: it has no part in what is read.

**Results.**
* `jsonIn_eq_some_iff`: the object that is found is the framed one.
* `Frames.eq`: there is only one frame.
* `no_frame_iff`: the texts without an object.
* `jsonIn_between`: prose around an answer.
* `jsonIn_characterised`: all of it, for the object and for what is read from it.
-/

namespace CodeAudit
namespace Answer

open Json

/-- A text is an object with what stands around it: the object is from a first opening brace to a
last closing brace. -/
structure Frames
    (before object after text : String) : Prop where
  text_eq : text = before ++ object ++ after
  unopened : '{' ∉ before.toList
  unclosed : '}' ∉ after.toList
  opens : ∃ rest, object.toList = '{' :: rest
  closes : ∃ rest, object.toList = rest ++ ['}']

section Search

variable {c : Char} {before text : List Char}

/-- A search for a character passes over a text without it. -/
theorem dropWhile_append_of_notMem
    (hbefore : c ∉ before)
    (text : List Char) :
    (before ++ text).dropWhile (fun d => d != c) = text.dropWhile fun d => d != c := by
  apply List.dropWhile_append_of_pos
  intro d hd
  rw [bne_iff_ne]
  rintro rfl
  exact hbefore hd

theorem dropWhile_eq_nil_of_notMem
    (htext : c ∉ text) :
    text.dropWhile (fun d => d != c) = [] := by
  simpa using dropWhile_append_of_notMem htext []

/-- A text with a character is cut at the last one. -/
theorem exists_last_of_mem
    (hmem : c ∈ text) :
    ∃ rest after, text = rest ++ c :: after ∧ c ∉ after := by
  obtain ⟨after, rest, htext, hafter⟩ :=
    List.eq_append_cons_of_mem (List.mem_reverse.mpr hmem)
  refine ⟨rest.reverse, after.reverse, ?_, by simpa using hafter⟩
  rw [← List.reverse_inj, htext]
  simp

end Search

section Frame

variable {before object after text : String}

/-- In front of the first opening brace stands what is in front of the object. -/
theorem Frames.dropWhile_eq
    (hframes : Frames before object after text) :
    (text.toList.dropWhile fun c => c != '{') = object.toList ++ after.toList := by
  obtain ⟨inner, hopens⟩ := hframes.opens
  rw [hframes.text_eq, String.append_assoc, String.toList_append,
    dropWhile_append_of_notMem hframes.unopened, String.toList_append, hopens]
  rfl

/-- The object in a frame is found. -/
theorem Frames.jsonIn_eq
    (hframes : Frames before object after text) :
    jsonIn text = some object := by
  obtain ⟨front, hcloses⟩ := hframes.closes
  have hlast : ((object.toList ++ after.toList).reverse.dropWhile fun c => c != '}') =
      '}' :: front.reverse := by
    rw [List.reverse_append,
      dropWhile_append_of_notMem (by simpa using hframes.unclosed), hcloses]
    simp
  have hobject : ('}' :: front.reverse).reverse = object.toList := by
    rw [hcloses]
    simp
  rw [jsonIn]
  simp only [hframes.dropWhile_eq, hlast, hobject, String.ofList_toList]

/-- A text is framed in one way only. -/
theorem Frames.eq
    {before' object' after' : String}
    (hframes : Frames before object after text)
    (hframes' : Frames before' object' after' text) :
    before' = before ∧ object' = object ∧ after' = after := by
  have hobject : object' = object :=
    Option.some.inj (hframes'.jsonIn_eq.symm.trans hframes.jsonIn_eq)
  subst hobject
  have hafter : after'.toList = after.toList :=
    List.append_cancel_left (hframes'.dropWhile_eq.symm.trans hframes.dropWhile_eq)
  obtain rfl := String.toList_inj.mp hafter
  have htext : before' ++ (object' ++ after') = before ++ (object' ++ after') := by
    rw [← String.append_assoc, ← String.append_assoc, ← hframes.text_eq, ← hframes'.text_eq]
  refine ⟨String.toList_inj.mp ?_, rfl, rfl⟩
  have hlists := congrArg String.toList htext
  simp only [String.toList_append] at hlists
  exact List.append_cancel_right hlists

/-- A text with an opening brace and a closing one behind it has a frame. -/
theorem exists_frame
    {front back : List Char}
    (htext : text.toList = front ++ '{' :: back)
    (hfront : '{' ∉ front)
    (hback : '}' ∈ back) :
    ∃ before object after, Frames before object after text := by
  obtain ⟨inner, after, rfl, hafter⟩ := exists_last_of_mem hback
  refine ⟨String.ofList front, String.ofList ('{' :: (inner ++ ['}'])), String.ofList after, ?_⟩
  constructor
  · apply String.toList_inj.mp
    simp [htext]
  · simpa using hfront
  · simpa using hafter
  · exact ⟨inner ++ ['}'], by simp⟩
  · exact ⟨'{' :: inner, by simp⟩

/-- A text without a frame has no opening brace, or no closing brace behind the first one. -/
theorem no_frame_iff :
    (¬ ∃ before object after, Frames before object after text) ↔
      '{' ∉ text.toList ∨
        ∃ before after, text = before ++ "\x7b" ++ after ∧
          '{' ∉ before.toList ∧ '}' ∉ after.toList := by
  constructor
  · intro hnone
    by_cases hmem : '{' ∈ text.toList
    · obtain ⟨front, back, htext, hfront⟩ := List.eq_append_cons_of_mem hmem
      refine Or.inr ⟨String.ofList front, String.ofList back, ?_, by simpa using hfront, ?_⟩
      · apply String.toList_inj.mp
        simp [htext]
      · intro hback
        exact hnone (exists_frame htext hfront (by simpa using hback))
    · exact Or.inl hmem
  · rintro hnone ⟨before, object, after, hframes⟩
    have hdrop := hframes.dropWhile_eq
    obtain ⟨inner, hopens⟩ := hframes.opens
    obtain ⟨front, hcloses⟩ := hframes.closes
    rcases hnone with hmem | ⟨before', after', htext, hbefore', hafter'⟩
    · rw [dropWhile_eq_nil_of_notMem hmem, hopens] at hdrop
      cases hdrop
    · -- Both cuts are at the first opening brace, so the closing brace of the object is behind it.
      rw [htext, String.append_assoc, String.toList_append,
        dropWhile_append_of_notMem hbefore', String.toList_append] at hdrop
      have hmem : '}' ∈ '{' :: after'.toList := by
        change '}' ∈ ("\x7b".toList ++ after'.toList).dropWhile fun c => c != '{'
        rw [hdrop, hcloses]
        simp
      exact hafter' ((List.mem_cons.mp hmem).resolve_left (by decide))

/-- Nothing is found if there is no closing brace from the first opening brace on. -/
theorem jsonIn_eq_none_iff :
    jsonIn text = none ↔ '}' ∉ text.toList.dropWhile fun c => c != '{' := by
  have hsearch : ((text.toList.dropWhile fun c => c != '{').reverse.dropWhile fun c => c != '}') =
      [] ↔ '}' ∉ text.toList.dropWhile fun c => c != '{' := by
    rw [List.dropWhile_eq_nil_iff]
    constructor
    · intro hall hmem
      simpa using hall _ (List.mem_reverse.mpr hmem)
    · rintro hmem c hc
      rw [bne_iff_ne]
      rintro rfl
      exact hmem (List.mem_reverse.mp hc)
  rw [← hsearch]
  simp only [jsonIn]
  cases (text.toList.dropWhile fun c => c != '{').reverse.dropWhile fun c => c != '}' <;> simp

theorem jsonIn_eq_none_iff_no_frame :
    jsonIn text = none ↔ ¬ ∃ before object after, Frames before object after text := by
  constructor
  · rintro hnone ⟨before, object, after, hframes⟩
    rw [hframes.jsonIn_eq] at hnone
    cases hnone
  · intro hframe
    rw [jsonIn_eq_none_iff]
    rcases no_frame_iff.mp hframe with hmem | ⟨before, after, rfl, hbefore, hafter⟩
    · simp [dropWhile_eq_nil_of_notMem hmem]
    · rw [String.append_assoc, String.toList_append, dropWhile_append_of_notMem hbefore]
      simpa using hafter

/-- What is found is framed, and the other way round. -/
theorem jsonIn_eq_some_iff :
    jsonIn text = some object ↔ ∃ before after, Frames before object after text := by
  constructor
  · intro hfound
    have hframe : ∃ before object after, Frames before object after text := by
      by_contra hnone
      rw [jsonIn_eq_none_iff_no_frame.mpr hnone] at hfound
      cases hfound
    obtain ⟨before, object', after, hframes⟩ := hframe
    obtain rfl : object' = object := Option.some.inj (hframes.jsonIn_eq.symm.trans hfound)
    exact ⟨before, after, hframes⟩
  · rintro ⟨before, after, hframes⟩
    exact hframes.jsonIn_eq

/-- The object that is found is its own object. -/
theorem jsonIn_of_jsonIn
    (hfound : jsonIn text = some object) :
    jsonIn object = some object := by
  obtain ⟨before, after, hframes⟩ := jsonIn_eq_some_iff.mp hfound
  have hwhole : Frames "" object "" object :=
    ⟨by simp, by simp, by simp, hframes.opens, hframes.closes⟩
  exact hwhole.jsonIn_eq

/-- A frame is part of a longer text, as long as this opens nothing earlier and closes nothing later. -/
theorem Frames.between
    (hframes : Frames before object after text)
    {front back : String}
    (hfront : '{' ∉ front.toList)
    (hback : '}' ∉ back.toList) :
    Frames (front ++ before) object (after ++ back) (front ++ text ++ back) where
  text_eq := by
    rw [hframes.text_eq]
    simp only [String.append_assoc]
  unopened := by
    simpa using ⟨hfront, hframes.unopened⟩
  unclosed := by
    simpa using ⟨hframes.unclosed, hback⟩
  opens := hframes.opens
  closes := hframes.closes

/-- Prose around a text changes nothing of what is found in it. -/
theorem jsonIn_between
    {front back : String}
    (hfront : '{' ∉ front.toList)
    (hback : '}' ∉ back.toList)
    (text : String) :
    jsonIn (front ++ text ++ back) = jsonIn text := by
  cases hfound : jsonIn text with
  | some object =>
      obtain ⟨before, after, hframes⟩ := jsonIn_eq_some_iff.mp hfound
      exact (hframes.between hfront hback).jsonIn_eq
  | none =>
      rw [jsonIn_eq_none_iff] at hfound ⊢
      rw [String.append_assoc, String.toList_append, dropWhile_append_of_notMem hfront,
        String.toList_append, List.dropWhile_append]
      split
      · exact fun hmem => hback (List.dropWhile_suffix _ |>.mem hmem)
      · simpa using ⟨hfound, hback⟩

end Frame

section Read

variable {α : Type} (reader : Reader) (ofValue? : Value → Option α)

/-- What is read of an answer is what the whole text of its object says, read strictly. -/
theorem read?_of_jsonIn
    {text object : String}
    (hfound : jsonIn text = some object) :
    read? reader ofValue? text = (reader.parse object).toOption.bind ofValue? := by
  rw [read?, hfound]
  cases hparse : reader.parse object <;> simp [hparse, Except.toOption]

theorem read?_congr
    {text text' : String}
    (hsame : jsonIn text = jsonIn text') :
    read? reader ofValue? text = read? reader ofValue? text' := by
  rw [read?, read?, hsame]

end Read

/--
The object of an answer is the part from its first opening brace to its last closing brace.  A text
can be cut in this way at most once; the part is what is found, and what is read as a record of any
kind is what a strict reader makes of the whole part.  Nothing is found exactly if the text cannot be
cut in this way, that is, if it has no opening brace or no closing brace behind the first one.  So
what is found in an object is the object itself, and text around an answer changes nothing if it has
no opening brace in front and no closing brace behind.
-/
theorem jsonIn_characterised
    (text : String) :
    (∀ before object after, Frames before object after text →
      jsonIn text = some object ∧
        (∀ (α : Type) (reader : Reader) (ofValue? : Value → Option α),
          read? reader ofValue? text = (reader.parse object).toOption.bind ofValue?) ∧
        ∀ before' object' after', Frames before' object' after' text →
          before' = before ∧ object' = object ∧ after' = after) ∧
    (jsonIn text = none ↔ ¬ ∃ before object after, Frames before object after text) ∧
    (jsonIn text = none ↔
      '{' ∉ text.toList ∨
        ∃ before after, text = before ++ "\x7b" ++ after ∧
          '{' ∉ before.toList ∧ '}' ∉ after.toList) ∧
    (∀ object, jsonIn text = some object → jsonIn object = some object) ∧
    ∀ front back, '{' ∉ front.toList → '}' ∉ back.toList →
      jsonIn (front ++ text ++ back) = jsonIn text ∧
        ∀ (α : Type) (reader : Reader) (ofValue? : Value → Option α),
          read? reader ofValue? (front ++ text ++ back) = read? reader ofValue? text := by
  refine ⟨?_, jsonIn_eq_none_iff_no_frame, jsonIn_eq_none_iff_no_frame.trans no_frame_iff,
    fun object => jsonIn_of_jsonIn, ?_⟩
  · intro before object after hframes
    exact ⟨hframes.jsonIn_eq,
      fun α reader ofValue? => read?_of_jsonIn reader ofValue? hframes.jsonIn_eq,
      fun before' object' after' => hframes.eq⟩
  · intro front back hfront hback
    have hsame := jsonIn_between hfront hback text
    exact ⟨hsame, fun α reader ofValue? => read?_congr reader ofValue? hsame⟩

/-- An object in a fence, with an object inside it. -/
def fencedAnswer : String :=
  "```json\n\x7b\"score\": 3, \"parts\": \x7b\x7d\x7d\n```"

/-- The score of an object. -/
def scoreOf? (value : Value) : Option Nat := (value.member? "score").bind Value.asCount?

/-- The object in the fence is found and read, also with prose around the fence; braces in the wrong
order hold no object. -/
theorem fenced_object_found :
    Frames "```json\n" "\x7b\"score\": 3, \"parts\": \x7b\x7d\x7d" "\n```" fencedAnswer ∧
      jsonIn fencedAnswer = some "\x7b\"score\": 3, \"parts\": \x7b\x7d\x7d" ∧
      read? Reader.any scoreOf? fencedAnswer = some 3 ∧
      read? Reader.any scoreOf? ("Größe \x7d\n" ++ fencedAnswer ++ "\nDone \x7b") = some 3 ∧
      jsonIn "\x7d and \x7b" = none := by
  have hframes : Frames "```json\n" "\x7b\"score\": 3, \"parts\": \x7b\x7d\x7d" "\n```"
      fencedAnswer :=
    ⟨by decide +kernel, by decide +kernel, by decide +kernel,
      ⟨"\"score\": 3, \"parts\": \x7b\x7d\x7d".toList, by decide +kernel⟩,
      ⟨"\x7b\"score\": 3, \"parts\": \x7b\x7d".toList, by decide +kernel⟩⟩
  obtain ⟨hframe, -, -, -, hbetween⟩ := jsonIn_characterised fencedAnswer
  obtain ⟨-, -, hnone, -, -⟩ := jsonIn_characterised "\x7d and \x7b"
  obtain ⟨hfound, hread, -⟩ := hframe _ _ _ hframes
  have hscore : read? Reader.any scoreOf? fencedAnswer = some 3 := by
    rw [hread Nat Reader.any scoreOf?]
    decide +kernel
  refine ⟨hframes, hfound, hscore, ?_, ?_⟩
  · rw [(hbetween "Größe \x7d\n" "\nDone \x7b" (by decide +kernel) (by decide +kernel)).2, hscore]
  · exact hnone.mpr (Or.inr ⟨"\x7d and ", "", by decide +kernel, by decide +kernel, by decide +kernel⟩)

end Answer
end CodeAudit
