import CodeAudit.Proofs.Json.Grammar

/-!
# Text behind an object

A reader of a document takes one value and refuses any lexeme behind it.  Every text has lexemes, and
one that is not blank has at least one, be it a fault; an object of the grammar takes its own lexemes
and no other.  So a document that begins with an object and goes on is refused, whatever the reader
makes of the object.

**Results.**
* `length_tokenAt_le`, `exists_lexes`: every lexeme takes a character, so every text has lexemes.
* `document_object_append`: text behind an object is trailing text of the document.
* `Reader.parse_object_append`: no reader accepts it.
-/

namespace CodeAudit
namespace Json

section Trailing

variable {place : Nat} {text : List Char} {lexed : List Lexeme}

theorem length_wordToken_le
    (token : Token)
    (place : Nat)
    (letters text : List Char) :
    (wordToken token place letters text).2.2.length ≤ text.length := by
  induction letters generalizing place text with
  | nil =>
      exact Nat.le_refl _
  | cons letter letters ih =>
      cases text with
      | nil =>
          exact Nat.le_refl _
      | cons c rest =>
          rw [wordToken]
          split
          · exact Nat.le_succ_of_le (ih _ _)
          · exact Nat.zero_le _

theorem length_of_piecesOf_closed
    {stop : Nat}
    {rest : List Char}
    (hclosed : (piecesOf place text).2 = .closed stop rest) :
    rest.length ≤ text.length := by
  fun_induction piecesOf place text <;> simp_all <;> omega

theorem length_quotedToken_le
    (place : Nat)
    (text : List Char) :
    (quotedToken place text).2.2.length ≤ text.length := by
  unfold quotedToken
  simp only
  split
  · next hclosed =>
      exact length_of_piecesOf_closed hclosed
  · split <;> exact Nat.zero_le _

theorem length_numberToken_le
    (negative : Bool)
    (place : Nat)
    (text : List Char) :
    (numberToken negative place text).2.2.length ≤ text.length - 1 := by
  unfold numberToken
  split
  · next hread =>
      exact Nat.le_sub_one_of_lt (readNumeral_readsOn hread).1
  · exact Nat.zero_le _

/-- A lexeme takes at least the character that it begins with. -/
theorem length_tokenAt_le
    (place : Nat)
    (c : Char)
    (rest : List Char) :
    (tokenAt place c rest).2.2.length ≤ rest.length := by
  unfold tokenAt
  split
  case h_7 => exact length_wordToken_le _ _ _ _
  case h_8 => exact length_wordToken_le _ _ _ _
  case h_9 => exact length_wordToken_le _ _ _ _
  case h_10 => exact length_quotedToken_le _ _
  case h_11 => exact (length_numberToken_le _ _ _).trans (Nat.sub_le _ _)
  case h_12 =>
    split
    · exact length_numberToken_le _ _ _
    · exact Nat.zero_le _
  all_goals exact Nat.le_refl _

/-- Every text has lexemes. -/
theorem exists_lexes
    (place : Nat)
    (text : List Char) :
    ∃ lexed, Lexes place text lexed := by
  -- A lexeme takes any number of characters, so the induction is on the length of the text.
  induction hlength : text.length using Nat.strongRecOn generalizing place text with
  | ind n ih =>
      cases text with
      | nil =>
          exact ⟨[], Lexes.nil place⟩
      | cons c rest =>
          rw [List.length_cons] at hlength
          cases hspace : isSpace c with
          | true =>
              obtain ⟨lexed, hlexes⟩ := ih rest.length (by omega) (place + 1) rest rfl
              exact ⟨lexed, Lexes.space hspace hlexes⟩
          | false =>
              obtain ⟨token, stop, after, htoken⟩ : ∃ token stop after,
                  tokenAt place c rest = (token, stop, after) := ⟨_, _, _, rfl⟩
              have hafter : after.length ≤ rest.length := by
                simpa [htoken] using length_tokenAt_le place c rest
              obtain ⟨lexed, hlexes⟩ := ih after.length (by omega) stop after rfl
              exact ⟨_, Lexes.token hspace htoken hafter hlexes⟩

/-- A text that is not blank has at least one lexeme. -/
theorem Lexes.ne_nil
    (hlexes : Lexes place text lexed)
    (htext : ¬ IsBlanks text) :
    lexed ≠ [] := by
  induction hlexes with
  | nil place =>
      exact absurd (by simp [IsBlanks]) htext
  | space hspace _ ih =>
      apply ih
      intro hrest
      exact htext (List.forall_mem_cons.mpr ⟨hspace, hrest⟩)
  | token =>
      exact List.cons_ne_nil _ _

/-- Text behind an object is none of it: the document ends with the object, and something follows. -/
theorem document_object_append
    {object : String}
    (hobject : Grammar .object object.toList)
    {more : String}
    (hmore : ¬ IsBlanks more.toList) :
    ∃ place, (document (object ++ more)).trailing = some place := by
  obtain ⟨lexed, stop, node, hfirm, -, hparses⟩ := hobject.consumed 0
  obtain ⟨later, hlater⟩ := exists_lexes stop more.toList
  have hlexes := hfirm _ _ hlater
  have hlexemes : lexemes (object ++ more) = lexed ++ later := by
    rw [lexemes, String.toList_append]
    apply hlexes.lexemesFrom_eq
    rw [← String.toList_append, String.length_toList]
  have hread := hparses (object ++ more).utf8ByteSize (2 * (lexed ++ later).length + 2) later
    (by rw [List.length_append]; omega)
  obtain ⟨first, rest, rfl⟩ := List.exists_cons_of_ne_nil (hlater.ne_nil hmore)
  refine ⟨first.start, ?_⟩
  simp only [document, hlexemes, hread, List.head?_cons, Option.map_some]

/-- No reader accepts an object with other text behind it. -/
theorem Reader.parse_object_append
    (reader : Reader)
    {object : String}
    (hobject : Grammar .object object.toList)
    {more : String}
    (hmore : ¬ IsBlanks more.toList) :
    ∃ fault, reader.parse (object ++ more) = .error fault := by
  obtain ⟨place, htrailing⟩ := document_object_append hobject hmore
  rw [Reader.parse]
  simp only [htrailing]
  cases reader (document (object ++ more)).node with
  | error fault =>
      exact ⟨fault, rfl⟩
  | ok value =>
      exact ⟨⟨.trailingCharacters, place + 1⟩, rfl⟩

end Trailing

end Json
end CodeAudit
