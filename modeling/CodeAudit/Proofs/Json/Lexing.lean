import CodeAudit.Json.Reader
import Mathlib.Data.List.Forall2
import Mathlib.Tactic.SplitIfs

/-!
# Lexemes of a printed text

A printed value is a text of which each part is read alone: what stands behind a part does not change
its lexemes, as long as no numeral goes on there.  `Spelled` says this of a part, its lexemes and
the place after it; parts are put together by `Spelled.append`.

An escaped text is read one character of the text at a time: what is written for a character gives
one piece, and the pieces are decoded to the characters again.

**Results.**
* `Lexes.lexemesFrom_eq`: lexemes that are found one by one.
* `Spelled.append`, `spelled_token`: parts of a text.
* `spelled_quoted`: a quoted text.
-/

namespace CodeAudit
namespace Json

/-- A character with which a numeral goes on. -/
def continuesNumeral (c : Char) : Bool := c.isDigit || c = '.' || c = 'e' || c = 'E'

/-- A text in front of which a numeral ends. -/
def Clear (text : List Char) : Prop := ∀ c ∈ text.head?, continuesNumeral c = false

/-- The lexemes of a text that begins at a place, found one by one. -/
inductive Lexes : Nat → List Char → List Lexeme → Prop
  | nil
      (place : Nat) :
      Lexes place [] []
  | space
      {place : Nat}
      {c : Char}
      {rest : List Char}
      {lexed : List Lexeme}
      (hspace : isSpace c = true)
      (hrest : Lexes (place + 1) rest lexed) :
      Lexes place (c :: rest) lexed
  | token
      {place stop : Nat}
      {c : Char}
      {rest after : List Char}
      {token : Token}
      {lexed : List Lexeme}
      (hspace : isSpace c = false)
      (htoken : tokenAt place c rest = (token, stop, after))
      (hlength : after.length ≤ rest.length)
      (hrest : Lexes stop after lexed) :
      Lexes place (c :: rest) (⟨token, place, stop⟩ :: lexed)

/-- A part of a text that begins at a place and gives the same lexemes whatever stands behind it. -/
def Spelled
    (place : Nat)
    (text : List Char)
    (lexed : List Lexeme)
    (stop : Nat) : Prop :=
  ∀ more later, Clear more → Lexes stop more later → Lexes place (text ++ more) (lexed ++ later)

theorem Lexes.lexemesFrom_eq
    {place : Nat}
    {text : List Char}
    {lexed : List Lexeme}
    (hlexes : Lexes place text lexed)
    {fuel : Nat}
    (hfuel : text.length ≤ fuel) :
    lexemesFrom fuel place text = lexed := by
  induction hlexes generalizing fuel with
  | nil place =>
      cases fuel <;> rfl
  | space hspace _ ih =>
      cases fuel with
      | zero =>
          simp at hfuel
      | succ fuel =>
          rw [lexemesFrom, if_pos hspace]
          exact ih (by simpa using hfuel)
  | token hspace htoken hlength _ ih =>
      cases fuel with
      | zero =>
          simp at hfuel
      | succ fuel =>
          rw [lexemesFrom, if_neg (by simp [hspace])]
          simp only [htoken]
          rw [ih (Nat.le_trans hlength (by simpa using hfuel))]

section Parts

variable {place stop : Nat} {text : List Char} {lexed : List Lexeme}

theorem Spelled.nil
    (place : Nat) :
    Spelled place [] [] place :=
  fun _ _ _ hmore => hmore

/-- Two parts, the second of which does not go on with a numeral. -/
theorem Spelled.append
    {middle : Nat}
    {text' : List Char}
    {lexed' : List Lexeme}
    (htext : Spelled place text lexed middle)
    (htext' : Spelled middle text' lexed' stop)
    (hclear : ∀ more, Clear more → Clear (text' ++ more)) :
    Spelled place (text ++ text') (lexed ++ lexed') stop := by
  intro more later hmore hlexes
  rw [List.append_assoc, List.append_assoc]
  exact htext _ _ (hclear more hmore) (htext' more later hmore hlexes)

/-- A part that is read by one token, whatever stands behind it. -/
theorem spelled_token
    {c : Char}
    {rest : List Char}
    {token : Token}
    (hspace : isSpace c = false)
    (htoken : ∀ more, Clear more → tokenAt place c (rest ++ more) = (token, stop, more)) :
    Spelled place (c :: rest) [⟨token, place, stop⟩] stop := by
  intro more later hmore hlexes
  apply Lexes.token hspace (htoken more hmore) _ hlexes
  simp

theorem Spelled.space
    {c : Char}
    (hspace : isSpace c = true)
    (hrest : Spelled (place + 1) text lexed stop) :
    Spelled place (c :: text) lexed stop :=
  fun more later hmore hlexes => Lexes.space hspace (hrest more later hmore hlexes)

theorem Spelled.spaces
    (n : Nat)
    {place : Nat}
    (hrest : Spelled (place + n) text lexed stop) :
    Spelled place (List.replicate n ' ' ++ text) lexed stop := by
  induction n generalizing place with
  | zero =>
      exact hrest
  | succ n ih =>
      rw [List.replicate_succ, List.cons_append]
      apply Spelled.space (by decide)
      apply ih
      rwa [Nat.add_right_comm]

end Parts

section Quoted

/-- A piece of a quoted text stands for a character. -/
inductive Piece.StandsFor : Piece → Char → Prop
  | plain
      (c : Char) :
      StandsFor (.plain c) c
  | escaped
      (c : Char) :
      StandsFor (.escaped c) c
  | codeUnit
      (c : Char)
      (hcontrol : c.toNat < 32) :
      StandsFor (.codeUnit c.toNat) c

theorem hexUnit?_control :
    ∀ n < 32, hexUnit? '0' '0' (hexDigit (n / 16)) (hexDigit (n % 16)) = some n := by
  decide

/-- A character that needs no escape is a piece as it stands. -/
theorem piecesOf_plain
    {c : Char}
    (hquote : c ≠ '"')
    (hbackslash : c ≠ '\\')
    (hcontrol : ¬ c.toNat < 32)
    (place : Nat)
    (rest : List Char) :
    piecesOf place (c :: rest) =
      ((.plain c, place + c.utf8Size) :: (piecesOf (place + c.utf8Size) rest).1,
        (piecesOf (place + c.utf8Size) rest).2) := by
  rw [piecesOf.eq_def]
  split
  · next heq => cases heq
  · next heq => exact absurd (List.cons.inj heq).1 hquote
  · next heq => exact absurd (List.cons.inj heq).1 hbackslash
  · next heq => exact absurd (List.cons.inj heq).1 hbackslash
  · next heq => exact absurd (List.cons.inj heq).1 hbackslash
  · next heq =>
      obtain ⟨rfl, rfl⟩ := List.cons.inj heq
      rw [if_neg hbackslash, if_neg hcontrol]

/-- The characters that are written for one character give one piece. -/
theorem piecesOf_quotedChar
    (c : Char)
    (place : Nat) :
    ∃ piece next,
      piece.StandsFor c ∧
        ∀ rest,
          piecesOf place (quotedChar c ++ rest) =
            ((piece, next) :: (piecesOf next rest).1, (piecesOf next rest).2) := by
  unfold quotedChar
  split_ifs with hquote hbackslash hfeed hreturn htab hback hform hcontrol
  · exact ⟨.escaped '"', place + 2, hquote ▸ .escaped _, fun rest => rfl⟩
  · exact ⟨.escaped '\\', place + 2, hbackslash ▸ .escaped _, fun rest => rfl⟩
  · exact ⟨.escaped '\n', place + 2, hfeed ▸ .escaped _, fun rest => rfl⟩
  · exact ⟨.escaped '\r', place + 2, hreturn ▸ .escaped _, fun rest => rfl⟩
  · exact ⟨.escaped '\t', place + 2, htab ▸ .escaped _, fun rest => rfl⟩
  · refine ⟨.escaped (Char.ofNat 8), place + 2, ?_, fun rest => rfl⟩
    rw [← hback, Char.ofNat_toNat]
    exact .escaped c
  · refine ⟨.escaped (Char.ofNat 12), place + 2, ?_, fun rest => rfl⟩
    rw [← hform, Char.ofNat_toNat]
    exact .escaped c
  · refine ⟨.codeUnit c.toNat, place + 6, .codeUnit c hcontrol, ?_⟩
    intro rest
    simp only [List.cons_append, List.nil_append]
    rw [piecesOf]
    simp only [hexUnit?_control _ hcontrol]
  · exact ⟨.plain c, place + c.utf8Size, .plain c,
      fun rest => piecesOf_plain hquote hbackslash hcontrol place rest⟩

/-- The characters of a quoted text give one piece for each character of the text. -/
theorem piecesOf_quoted
    (text : List Char)
    (place : Nat) :
    ∃ pieces stop,
      List.Forall₂ (fun piece c => Piece.StandsFor piece.1 c) pieces text ∧
        ∀ more,
          piecesOf place (text.flatMap quotedChar ++ '"' :: more) =
            (pieces, .closed stop more) := by
  induction text generalizing place with
  | nil =>
      exact ⟨[], place + 1, .nil, fun more => rfl⟩
  | cons c rest ih =>
      obtain ⟨piece, next, hpiece, hread⟩ := piecesOf_quotedChar c place
      obtain ⟨pieces, stop, hpieces, hrest⟩ := ih next
      refine ⟨(piece, next) :: pieces, stop, .cons hpiece hpieces, ?_⟩
      intro more
      rw [List.flatMap_cons, List.append_assoc, hread, hrest]

/-- A unit of a control character is no half of a surrogate pair. -/
theorem decodePieces_control
    (atEnd : Fault)
    {c : Char}
    (hcontrol : c.toNat < 32)
    (place : Nat)
    (rest : List (Piece × Nat)) :
    decodePieces atEnd ((.codeUnit c.toNat, place) :: rest) =
      (do return c :: (← decodePieces atEnd rest)) := by
  have hlead : isLeadUnit c.toNat = false := by
    simp [isLeadUnit]
    omega
  have htrail : isTrailUnit c.toNat = false := by
    simp [isTrailUnit]
    omega
  cases rest with
  | nil =>
      simp [decodePieces, hlead, htrail]
  | cons second rest =>
      obtain ⟨piece, next⟩ := second
      cases piece <;> simp [decodePieces, hlead, htrail]

theorem decodePieces_of_standsFor
    (atEnd : Fault)
    {pieces : List (Piece × Nat)}
    {text : List Char}
    (hpieces : List.Forall₂ (fun piece c => Piece.StandsFor piece.1 c) pieces text) :
    decodePieces atEnd pieces = .ok text := by
  induction hpieces with
  | nil =>
      rfl
  | @cons first c rest text hfirst _ ih =>
      obtain ⟨piece, place⟩ := first
      cases hfirst with
      | plain =>
          rw [decodePieces, ih]
          rfl
      | escaped =>
          rw [decodePieces, ih]
          rfl
      | codeUnit _ hcontrol =>
          rw [decodePieces_control atEnd hcontrol, ih]
          rfl

/-- A text in quotes gives the text again, whatever its characters are. -/
theorem spelled_quoted
    (text : String)
    (place : Nat) :
    ∃ stop, Spelled place (quoted text).toList [⟨.text (.ok text), place, stop⟩] stop := by
  obtain ⟨pieces, stop, hpieces, hread⟩ := piecesOf_quoted text.toList (place + 1)
  refine ⟨stop, ?_⟩
  rw [quoted, String.toList_ofList]
  apply spelled_token (by decide)
  intro more _
  have hdecoded := decodePieces_of_standsFor (TextEnd.closed stop more).leadFault hpieces
  change quotedToken (place + 1) _ = _
  rw [List.append_assoc, quotedToken]
  simp only [List.singleton_append, hread, hdecoded]
  rw [Except.map, String.ofList_toList]

end Quoted

section Punctuation

variable (place : Nat)

theorem spelled_openList :
    Spelled place ['['] [⟨.openList, place, place + 1⟩] (place + 1) :=
  spelled_token (by decide) fun _ _ => rfl

theorem spelled_closeList :
    Spelled place [']'] [⟨.closeList, place, place + 1⟩] (place + 1) :=
  spelled_token (by decide) fun _ _ => rfl

theorem spelled_openObject :
    Spelled place ['\x7b'] [⟨.openObject, place, place + 1⟩] (place + 1) :=
  spelled_token (by decide) fun _ _ => rfl

theorem spelled_closeObject :
    Spelled place ['\x7d'] [⟨.closeObject, place, place + 1⟩] (place + 1) :=
  spelled_token (by decide) fun _ _ => rfl

theorem spelled_colon :
    Spelled place [':'] [⟨.colon, place, place + 1⟩] (place + 1) :=
  spelled_token (by decide) fun _ _ => rfl

theorem spelled_comma :
    Spelled place [','] [⟨.comma, place, place + 1⟩] (place + 1) :=
  spelled_token (by decide) fun _ _ => rfl

theorem spelled_null :
    Spelled place "null".toList [⟨.null, place, place + 4⟩] (place + 4) :=
  spelled_token (by decide) fun _ _ => rfl

theorem spelled_true :
    Spelled place "true".toList [⟨.truth true, place, place + 4⟩] (place + 4) :=
  spelled_token (by decide) fun _ _ => rfl

theorem spelled_false :
    Spelled place "false".toList [⟨.truth false, place, place + 5⟩] (place + 5) :=
  spelled_token (by decide) fun _ _ => rfl

end Punctuation

end Json
end CodeAudit
