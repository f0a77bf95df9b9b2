import CodeAudit.Proofs.Json.Numerals
import CodeAudit.Proofs.Json.Printing

/-!
# The grammar of JSON texts

`Grammar` says which texts are JSON values, as the standard for JSON gives it: literal names, numbers,
strings in quotes, lists and objects, with blanks between the parts.  It knows nothing of the reader.

A text of the grammar gives lexemes that are read as one node, whatever stands behind them; only
behind a number nothing may stand that continues it.  An object ends with its closing brace, so
anything may stand behind it.  The proof is by induction on the grammar; strings may hold braces and
brackets, but these are inside one lexeme.

**Results.**
* `spelled_of_isNumeral`, `spelled_of_isQuoted`: numbers and strings of the grammar are one lexeme.
* `Spelled.firm_object`: the lexemes of an object do not depend on what stands behind it.
* `Grammar.consumed`: the lexemes of a text and the node that is read from them.
-/

namespace CodeAudit
namespace Json

/-! ## The grammar -/

/-- A text of blanks. -/
def IsBlanks (text : List Char) : Prop := ∀ c ∈ text, isSpace c = true

/-- A text of digits, of which there is at least one. -/
def IsDigits (text : List Char) : Prop := text ≠ [] ∧ ∀ c ∈ text, c.isDigit = true

/-- The fraction of a number, which may be missing. -/
def IsFraction (text : List Char) : Prop :=
  text = [] ∨ ∃ digits, text = '.' :: digits ∧ IsDigits digits

/-- The exponent of a number, which may be missing. -/
def IsExponent (text : List Char) : Prop :=
  text = [] ∨ ∃ mark sign digits, text = mark :: (sign ++ digits) ∧
    (mark = 'e' ∨ mark = 'E') ∧ (sign = [] ∨ sign = ['+'] ∨ sign = ['-']) ∧ IsDigits digits

/-- A number without a sign; only zero begins with a zero. -/
def IsMagnitude (text : List Char) : Prop :=
  ∃ whole fraction exponent, text = whole ++ (fraction ++ exponent) ∧
    IsDigits whole ∧ (whole.head? = some '0' → whole = ['0']) ∧
    IsFraction fraction ∧ IsExponent exponent

/-- A number. -/
def IsNumeral (text : List Char) : Prop :=
  IsMagnitude text ∨ ∃ magnitude, text = '-' :: magnitude ∧ IsMagnitude magnitude

/-- The letters that may be escaped. -/
def escapeLetters : List Char := ['"', '\\', '/', 'b', 'f', 'n', 'r', 't']

/-- The hexadecimal digits, in either case. -/
def hexDigits : List Char := "0123456789abcdefABCDEF".toList

/-- What may stand between the quotes of a string. -/
inductive IsContent : List Char → Prop
  | nil :
      IsContent []
  | plain
      {c : Char}
      {rest : List Char}
      (hquote : c ≠ '"')
      (hbackslash : c ≠ '\\')
      (hcontrol : ¬ c.toNat < 32)
      (hrest : IsContent rest) :
      IsContent (c :: rest)
  | escape
      {c : Char}
      {rest : List Char}
      (hletter : c ∈ escapeLetters)
      (hrest : IsContent rest) :
      IsContent ('\\' :: c :: rest)
  | codeUnit
      {a b c d : Char}
      {rest : List Char}
      (hdigits : ∀ digit ∈ [a, b, c, d], digit ∈ hexDigits)
      (hrest : IsContent rest) :
      IsContent ('\\' :: 'u' :: a :: b :: c :: d :: rest)

/-- A string in quotes. -/
def IsQuoted (text : List Char) : Prop :=
  ∃ content, text = '"' :: (content ++ ['"']) ∧ IsContent content

/-- The key of a member, with blanks around it. -/
def IsKey (text : List Char) : Prop :=
  ∃ before quoted after, text = before ++ (quoted ++ after) ∧
    IsBlanks before ∧ IsQuoted quoted ∧ IsBlanks after

/-- The kinds of texts that the grammar describes; an item is a value with blanks around it. -/
inductive Form where
  | value
  | object
  | item
  | items
  | members

/-- The texts of each kind. -/
inductive Grammar : Form → List Char → Prop
  | null :
      Grammar .value "null".toList
  | true :
      Grammar .value "true".toList
  | false :
      Grammar .value "false".toList
  | number
      {text : List Char}
      (hnumeral : IsNumeral text) :
      Grammar .value text
  | string
      {text : List Char}
      (hquoted : IsQuoted text) :
      Grammar .value text
  | emptyList
      {blanks : List Char}
      (hblanks : IsBlanks blanks) :
      Grammar .value ('[' :: (blanks ++ [']']))
  | list
      {items : List Char}
      (hitems : Grammar .items items) :
      Grammar .value ('[' :: (items ++ [']']))
  | object
      {text : List Char}
      (hobject : Grammar .object text) :
      Grammar .value text
  | emptyObject
      {blanks : List Char}
      (hblanks : IsBlanks blanks) :
      Grammar .object ('{' :: (blanks ++ ['}']))
  | members
      {members : List Char}
      (hmembers : Grammar .members members) :
      Grammar .object ('{' :: (members ++ ['}']))
  | item
      {before value after : List Char}
      (hbefore : IsBlanks before)
      (hvalue : Grammar .value value)
      (hafter : IsBlanks after) :
      Grammar .item (before ++ (value ++ after))
  | lastItem
      {item : List Char}
      (hitem : Grammar .item item) :
      Grammar .items item
  | nextItem
      {item items : List Char}
      (hitem : Grammar .item item)
      (hitems : Grammar .items items) :
      Grammar .items (item ++ ',' :: items)
  | lastMember
      {key item : List Char}
      (hkey : IsKey key)
      (hitem : Grammar .item item) :
      Grammar .members (key ++ ':' :: item)
  | nextMember
      {key item members : List Char}
      (hkey : IsKey key)
      (hitem : Grammar .item item)
      (hmembers : Grammar .members members) :
      Grammar .members (key ++ ':' :: (item ++ ',' :: members))

/-! ## Blanks and punctuation -/

section Punctuation

variable {place stop : Nat} {text : List Char} {lexed : List Lexeme}

theorem spelled_blanks
    (htext : IsBlanks text)
    (place : Nat) :
    Spelled place text [] (place + text.length) := by
  induction text generalizing place with
  | nil =>
      exact Spelled.nil place
  | cons c rest ih =>
      obtain ⟨hc, hrest⟩ := List.forall_mem_cons.mp htext
      have hlater := ih hrest (place + 1)
      rw [Nat.add_right_comm] at hlater
      exact Spelled.space hc hlater

/-- A numeral ends in front of blanks. -/
theorem clear_blanks
    (htext : IsBlanks text) :
    ∀ more, Clear more → Clear (text ++ more) := by
  intro more hmore
  cases text with
  | nil =>
      exact hmore
  | cons c rest =>
      have hc : isSpace c = true := htext c List.mem_cons_self
      simp only [isSpace, Bool.or_eq_true, decide_eq_true_eq] at hc
      rcases hc with ((rfl | rfl) | rfl) | rfl <;> exact clear_cons (by decide) rest more hmore

/-- Blanks in front of a part add no lexeme. -/
theorem Spelled.behind_blanks
    {before : List Char}
    (hbefore : IsBlanks before)
    (htext : Spelled (place + before.length) text lexed stop) :
    Spelled place (before ++ text) lexed stop := by
  induction before generalizing place with
  | nil =>
      exact htext
  | cons c rest ih =>
      obtain ⟨hc, hrest⟩ := List.forall_mem_cons.mp hbefore
      refine Spelled.space hc (ih hrest ?_)
      rwa [List.length_cons, ← Nat.add_assoc, Nat.add_right_comm] at htext

/-- Blanks behind a part add no lexeme. -/
theorem Spelled.before_blanks
    {after : List Char}
    (htext : Spelled place text lexed stop)
    (hafter : IsBlanks after) :
    Spelled place (text ++ after) lexed (stop + after.length) := by
  have hboth := htext.append (spelled_blanks hafter stop) (clear_blanks hafter)
  rwa [List.append_nil] at hboth

/-- Punctuation is a lexeme of its own, and a numeral may follow it. -/
theorem Spelled.punctuation
    {c : Char}
    {token : Token}
    (hspace : isSpace c = false)
    (htoken : ∀ place rest, tokenAt place c rest = (token, place + 1, rest))
    (hrest : Spelled (place + 1) text lexed stop) :
    Spelled place (c :: text) (⟨token, place, place + 1⟩ :: lexed) stop :=
  fun more later hmore hlexes =>
    Lexes.token hspace (htoken place _) (Nat.le_refl _) (hrest more later hmore hlexes)

/-- A part that gives these lexemes whatever stands behind it, also a digit. -/
def Firm
    (place : Nat)
    (text : List Char)
    (lexed : List Lexeme)
    (stop : Nat) : Prop :=
  ∀ more later, Lexes stop more later → Lexes place (text ++ more) (lexed ++ later)

theorem Firm.spelled
    (hfirm : Firm place text lexed stop) :
    Spelled place text lexed stop :=
  fun more later _ => hfirm more later

/-- A part between two brackets: the second one ends any numeral, and nothing changes it. -/
theorem Spelled.firm_brackets
    {opening closing : Char}
    {first last : Token}
    (hopening : isSpace opening = false)
    (hfirst : ∀ place rest, tokenAt place opening rest = (first, place + 1, rest))
    (hclosing : isSpace closing = false)
    (hlast : ∀ place rest, tokenAt place closing rest = (last, place + 1, rest))
    (hends : continuesNumeral closing = false)
    (htext : Spelled (place + 1) text lexed stop) :
    Firm place (opening :: (text ++ [closing]))
      (⟨first, place, place + 1⟩ :: (lexed ++ [⟨last, stop, stop + 1⟩])) (stop + 1) := by
  intro more later hlexes
  have hclose : Lexes stop (closing :: more) (⟨last, stop, stop + 1⟩ :: later) :=
    Lexes.token hclosing (hlast stop more) (Nat.le_refl _) hlexes
  have hclear : Clear (closing :: more) := by
    rintro c ⟨⟩
    exact hends
  have hbrackets :=
    Lexes.token hopening (hfirst place _) (Nat.le_refl _) (htext _ _ hclear hclose)
  simpa using hbrackets

theorem Spelled.firm_list
    (htext : Spelled (place + 1) text lexed stop) :
    Firm place ('[' :: (text ++ [']']))
      (⟨.openList, place, place + 1⟩ :: (lexed ++ [⟨.closeList, stop, stop + 1⟩])) (stop + 1) :=
  htext.firm_brackets (by decide) (fun _ _ => rfl) (by decide) (fun _ _ => rfl) (by decide)

theorem Spelled.firm_object
    (htext : Spelled (place + 1) text lexed stop) :
    Firm place ('{' :: (text ++ ['}']))
      (⟨.openObject, place, place + 1⟩ :: (lexed ++ [⟨.closeObject, stop, stop + 1⟩])) (stop + 1) :=
  htext.firm_brackets (by decide) (fun _ _ => rfl) (by decide) (fun _ _ => rfl) (by decide)

end Punctuation

/-! ## Numbers -/

section Numbers

variable {text digits : List Char}

theorem digitsOf_digits_append
    (hdigits : ∀ c ∈ digits, c.isDigit = true)
    {more : List Char}
    (hmore : ∀ c ∈ more.head?, c.isDigit = false) :
    digitsOf (digits ++ more) = (digits.map fun c => c.toNat - 48, more) := by
  induction digits with
  | nil =>
      cases more with
      | nil =>
          rfl
      | cons c more =>
          have hc : c.isDigit = false := hmore c rfl
          simp [digitsOf, hc]
  | cons c rest ih =>
      rw [List.forall_mem_cons] at hdigits
      rw [List.cons_append, digitsOf, if_pos hdigits.1, ih hdigits.2]
      rfl

/-- Digits are read up to what is none. -/
theorem IsDigits.digitsOf_append
    (hdigits : IsDigits digits)
    {more : List Char}
    (hmore : ∀ c ∈ more.head?, c.isDigit = false) :
    ∃ d values, digitsOf (digits ++ more) = (d :: values, more) ∧
      values.length + 1 = digits.length := by
  rw [digitsOf_digits_append hdigits.2 hmore]
  obtain ⟨c, rest, rfl⟩ := List.exists_cons_of_ne_nil hdigits.1
  exact ⟨_, _, rfl, by simp⟩

theorem IsExponent.head_not_digit
    (htext : IsExponent text) :
    ∀ c ∈ text.head?, c.isDigit = false := by
  rcases htext with rfl | ⟨mark, sign, digits, rfl, hmark, -⟩
  · simp
  · rintro c ⟨⟩
    rcases hmark with rfl | rfl <;> decide

theorem IsFraction.head_not_digit
    {fraction exponent : List Char}
    (hfraction : IsFraction fraction)
    (hexponent : IsExponent exponent) :
    ∀ c ∈ (fraction ++ exponent).head?, c.isDigit = false := by
  rcases hfraction with rfl | ⟨digits, rfl, -⟩
  · exact hexponent.head_not_digit
  · rintro c ⟨⟩
    decide

theorem IsExponent.readExponent_eq_ok
    (htext : IsExponent text)
    (numeral : Numeral)
    (place : Nat) :
    ∃ found stop, readExponent numeral place text = .ok (found, stop, []) := by
  rcases htext with rfl | ⟨mark, sign, digits, rfl, hmark, hsign, hdigits⟩
  · exact ⟨numeral, place, rfl⟩
  · have hrest : (exponentSign (sign ++ digits)).2.2 = digits := by
      obtain ⟨c, rest, rfl⟩ := List.exists_cons_of_ne_nil hdigits.1
      have hc : c.isDigit = true := hdigits.2 c List.mem_cons_self
      rcases hsign with rfl | rfl | rfl
      · unfold exponentSign
        split
        · next heq =>
            obtain ⟨rfl, -⟩ := List.cons.inj heq
            exact absurd hc (by decide)
        · next heq =>
            obtain ⟨rfl, -⟩ := List.cons.inj heq
            exact absurd hc (by decide)
        · rfl
      · rfl
      · rfl
    have hnone : ∀ c ∈ ([] : List Char).head?, c.isDigit = false := by simp
    obtain ⟨d, values, hread, -⟩ := hdigits.digitsOf_append hnone
    rw [List.append_nil] at hread
    rw [readExponent_of_mark hmark, hrest]
    refine ⟨_, _, exponentDigits_eq_ok_iff.mpr ⟨d, values, hread, rfl, rfl⟩⟩

theorem IsFraction.readFraction_eq_ok
    {fraction exponent : List Char}
    (hfraction : IsFraction fraction)
    (hexponent : IsExponent exponent)
    (numeral : Numeral)
    (place : Nat) :
    ∃ found stop, readFraction numeral place (fraction ++ exponent) = .ok (found, stop, []) := by
  rcases hfraction with rfl | ⟨digits, rfl, hdigits⟩
  · have hnone : readFraction numeral place exponent = readExponent numeral place exponent := by
      rcases hexponent with rfl | ⟨mark, sign, digits, rfl, hmark, -⟩
      · rfl
      · apply readFraction_of_other
        rintro rfl
        simp at hmark
    rw [List.nil_append, hnone]
    exact hexponent.readExponent_eq_ok numeral place
  · obtain ⟨d, values, hread, -⟩ := hdigits.digitsOf_append hexponent.head_not_digit
    obtain ⟨found, stop, hstop⟩ :=
      hexponent.readExponent_eq_ok { numeral with fraction := some (d :: values) }
        (place + 1 + (d :: values).length)
    exact ⟨found, stop, readFraction_of_point.mpr ⟨d, values, _, hread, hstop⟩⟩

theorem IsMagnitude.readNumeral_eq_ok
    (htext : IsMagnitude text)
    (negative : Bool)
    (place : Nat) :
    ∃ found stop, readNumeral negative place text = .ok (found, stop, []) := by
  obtain ⟨whole, fraction, exponent, rfl, hwhole, hzero, hfraction, hexponent⟩ := htext
  obtain ⟨d, values, hread, hlength⟩ :=
    hwhole.digitsOf_append (hfraction.head_not_digit hexponent)
  obtain ⟨found, stop, hstop⟩ :=
    hfraction.readFraction_eq_ok hexponent ⟨negative, d :: values, none, none⟩
      (place + (d :: values).length)
  refine ⟨found, stop, readNumeral_eq_ok_iff.mpr ⟨d, values, _, hread, ?_, hstop⟩⟩
  intro hhead
  -- A leading zero is the only digit, so no other one was read.
  have hfirst : whole.head? = some '0' := by
    obtain ⟨c, rest, rfl⟩ := List.exists_cons_of_ne_nil hwhole.1
    simpa using hhead
  rw [hzero hfirst] at hlength
  exact List.eq_nil_of_length_eq_zero (Nat.succ.inj hlength)

theorem IsMagnitude.exists_digit
    (htext : IsMagnitude text) :
    ∃ c rest, text = c :: rest ∧ c.isDigit = true := by
  obtain ⟨whole, fraction, exponent, rfl, hwhole, -⟩ := htext
  obtain ⟨c, rest, rfl⟩ := List.exists_cons_of_ne_nil hwhole.1
  exact ⟨c, _, rfl, hwhole.2 c List.mem_cons_self⟩

theorem isSpace_of_isDigit
    {c : Char}
    (hdigit : c.isDigit = true) :
    isSpace c = false := by
  rw [Bool.eq_false_iff]
  intro hspace
  simp only [isSpace, Bool.or_eq_true, decide_eq_true_eq] at hspace
  rcases hspace with ((rfl | rfl) | rfl) | rfl <;> exact absurd hdigit (by decide)

/-- A number is one lexeme. -/
theorem spelled_of_isNumeral
    (htext : IsNumeral text)
    (place : Nat) :
    ∃ numeral stop, Spelled place text [⟨.number numeral, place, stop⟩] stop := by
  rcases htext with hmagnitude | ⟨magnitude, rfl, hmagnitude⟩
  · obtain ⟨numeral, last, hread⟩ := hmagnitude.readNumeral_eq_ok false place
    obtain ⟨-, -, hmoves⟩ := readNumeral_readsOn hread
    obtain ⟨stop, hstop⟩ := hmoves place
    obtain ⟨c, rest, rfl, hdigit⟩ := hmagnitude.exists_digit
    refine ⟨numeral, stop, spelled_token (isSpace_of_isDigit hdigit) fun more hmore => ?_⟩
    rw [tokenAt_of_isDigit hdigit, numberToken_eq_number]
    exact hstop more fun _ => hmore
  · obtain ⟨numeral, last, hread⟩ := hmagnitude.readNumeral_eq_ok true (place + 1)
    obtain ⟨-, -, hmoves⟩ := readNumeral_readsOn hread
    obtain ⟨stop, hstop⟩ := hmoves (place + 1)
    refine ⟨numeral, stop, spelled_token (by decide) fun more hmore => ?_⟩
    exact numberToken_eq_number.mpr (hstop more fun _ => hmore)

end Numbers

/-! ## Strings -/

section Strings

theorem isSome_hexValue? :
    ∀ c ∈ hexDigits, (hexValue? c).isSome = true := by
  rw [← List.all_eq_true]
  decide +kernel

theorem exists_hexUnit?
    {a b c d : Char}
    (hdigits : ∀ digit ∈ [a, b, c, d], digit ∈ hexDigits) :
    ∃ code, hexUnit? a b c d = some code := by
  have hvalue : ∀ digit ∈ [a, b, c, d], ∃ value, hexValue? digit = some value := fun digit hmem =>
    Option.isSome_iff_exists.mp (isSome_hexValue? digit (hdigits digit hmem))
  obtain ⟨w, hw⟩ := hvalue a (by simp)
  obtain ⟨x, hx⟩ := hvalue b (by simp)
  obtain ⟨y, hy⟩ := hvalue c (by simp)
  obtain ⟨z, hz⟩ := hvalue d (by simp)
  exact ⟨((w * 16 + x) * 16 + y) * 16 + z, by simp [hexUnit?, hw, hx, hy, hz]⟩

theorem piecesOf_escape
    {c : Char}
    (hletter : c ∈ escapeLetters)
    (place : Nat) :
    ∃ piece, ∀ rest,
      piecesOf place ('\\' :: c :: rest) =
        ((piece, place + 2) :: (piecesOf (place + 2) rest).1, (piecesOf (place + 2) rest).2) := by
  simp only [escapeLetters, List.mem_cons, List.not_mem_nil, or_false] at hletter
  rcases hletter with rfl | rfl | rfl | rfl | rfl | rfl | rfl | rfl <;> exact ⟨_, fun rest => rfl⟩

/-- The content of a string is cut into pieces up to its closing quote. -/
theorem IsContent.piecesOf_eq
    {content : List Char}
    (hcontent : IsContent content)
    (place : Nat) :
    ∃ pieces stop, ∀ more,
      piecesOf place (content ++ '"' :: more) = (pieces, .closed stop more) := by
  induction hcontent generalizing place with
  | nil =>
      exact ⟨[], place + 1, fun more => rfl⟩
  | @plain c rest hquote hbackslash hcontrol _ ih =>
      obtain ⟨pieces, stop, hrest⟩ := ih (place + c.utf8Size)
      refine ⟨(.plain c, place + c.utf8Size) :: pieces, stop, fun more => ?_⟩
      rw [List.cons_append, piecesOf_plain hquote hbackslash hcontrol, hrest]
  | @escape c rest hletter _ ih =>
      obtain ⟨piece, hpiece⟩ := piecesOf_escape hletter place
      obtain ⟨pieces, stop, hrest⟩ := ih (place + 2)
      refine ⟨(piece, place + 2) :: pieces, stop, fun more => ?_⟩
      rw [List.cons_append, List.cons_append, hpiece, hrest]
  | @codeUnit a b c d rest hdigits _ ih =>
      obtain ⟨code, hcode⟩ := exists_hexUnit? hdigits
      obtain ⟨pieces, stop, hrest⟩ := ih (place + 6)
      refine ⟨(.codeUnit code, place + 6) :: pieces, stop, fun more => ?_⟩
      simp only [List.cons_append, piecesOf, hcode, hrest]

/-- A string is one lexeme, whatever it says. -/
theorem spelled_of_isQuoted
    {text : List Char}
    (htext : IsQuoted text)
    (place : Nat) :
    ∃ content stop, Spelled place text [⟨.text content, place, stop⟩] stop := by
  obtain ⟨content, rfl, hcontent⟩ := htext
  obtain ⟨pieces, stop, hpieces⟩ := hcontent.piecesOf_eq (place + 1)
  refine ⟨(decodePieces ⟨.unfinishedSurrogate, stop⟩ pieces).map String.ofList, stop, ?_⟩
  apply spelled_token (by decide)
  intro more _
  change quotedToken (place + 1) _ = _
  rw [List.append_assoc, List.singleton_append, quotedToken]
  simp only [hpieces]
  rfl

end Strings

/-! ## Values -/

section Values

/-- What a text of each kind gives: its lexemes, and what is read from them. -/
def Consumed : Form → List Char → Prop
  | .value, text | .item, text =>
    ∀ place, ∃ lexed stop node, Spelled place text lexed stop ∧ Parses lexed node
  | .object, text =>
    ∀ place, ∃ lexed stop node, Firm place text lexed stop ∧ Parses lexed node
  | .items, text =>
    ∀ place, ∃ lexed stop nodes, Spelled place text lexed stop ∧ ParsesItems lexed nodes
  | .members, text =>
    ∀ place, ∃ lexed stop members, Spelled place text lexed stop ∧ ParsesMembers lexed members

theorem spelled_of_isKey
    {key : List Char}
    (hkey : IsKey key)
    (place : Nat) :
    ∃ content start stop next, Spelled place key [⟨.text content, start, stop⟩] next := by
  obtain ⟨before, quoted, after, rfl, hbefore, hquoted, hafter⟩ := hkey
  obtain ⟨content, stop, hspelled⟩ := spelled_of_isQuoted hquoted (place + before.length)
  exact ⟨content, _, stop, _, (hspelled.before_blanks hafter).behind_blanks hbefore⟩

/-- A key and a colon in front of a value. -/
theorem Grammar.spelled_member
    {key item : List Char}
    (hkey : IsKey key)
    (hitem : Consumed .item item)
    (place : Nat) :
    ∃ content start stop next last lexed finish node,
      Spelled place (key ++ ':' :: item)
          (⟨.text content, start, stop⟩ :: ⟨.colon, next, last⟩ :: lexed) finish ∧
        Parses lexed node := by
  obtain ⟨content, start, stop, next, hspelled⟩ := spelled_of_isKey hkey place
  obtain ⟨lexed, finish, node, hvalue, hparses⟩ := hitem (next + 1)
  have hcolon := hvalue.punctuation (c := ':') (by decide) (fun _ _ => rfl)
  exact ⟨content, start, stop, next, _, lexed, finish, node,
    hspelled.append hcolon (clear_cons (by decide) _), hparses⟩

/-- The lexemes of a text of the grammar, and what is read from them. -/
theorem Grammar.consumed
    {form : Form}
    {text : List Char}
    (htext : Grammar form text) :
    Consumed form text := by
  induction htext with
  | null =>
      intro place
      exact ⟨_, _, _, spelled_null place, parses_single (by simp) fun _ _ _ => rfl⟩
  | true =>
      intro place
      exact ⟨_, _, _, spelled_true place, parses_single (by simp) fun _ _ _ => rfl⟩
  | false =>
      intro place
      exact ⟨_, _, _, spelled_false place, parses_single (by simp) fun _ _ _ => rfl⟩
  | number hnumeral =>
      intro place
      obtain ⟨numeral, stop, hspelled⟩ := spelled_of_isNumeral hnumeral place
      exact ⟨_, stop, _, hspelled, parses_single (by simp) fun _ _ _ => rfl⟩
  | string hquoted =>
      intro place
      obtain ⟨content, stop, hspelled⟩ := spelled_of_isQuoted hquoted place
      exact ⟨_, stop, _, hspelled, parses_single (by simp) fun _ _ _ => rfl⟩
  | emptyList hblanks =>
      intro place
      have hfirm := (spelled_blanks hblanks (place + 1)).firm_list
      exact ⟨_, _, _, hfirm.spelled, parses_emptyList⟩
  | list _ ih =>
      intro place
      obtain ⟨lexed, stop, nodes, hspelled, hparses⟩ := ih (place + 1)
      exact ⟨_, _, _, hspelled.firm_list.spelled, parses_list hparses⟩
  | object _ ih =>
      intro place
      obtain ⟨lexed, stop, node, hfirm, hparses⟩ := ih place
      exact ⟨lexed, stop, node, hfirm.spelled, hparses⟩
  | emptyObject hblanks =>
      intro place
      have hfirm := (spelled_blanks hblanks (place + 1)).firm_object
      exact ⟨_, _, _, hfirm, parses_emptyObject⟩
  | members _ ih =>
      intro place
      obtain ⟨lexed, stop, members, hspelled, hparses⟩ := ih (place + 1)
      exact ⟨_, _, _, hspelled.firm_object, parses_object hparses⟩
  | @item before value after hbefore _ hafter ih =>
      intro place
      obtain ⟨lexed, stop, node, hspelled, hparses⟩ := ih (place + before.length)
      exact ⟨lexed, _, node, (hspelled.before_blanks hafter).behind_blanks hbefore, hparses⟩
  | lastItem _ ih =>
      intro place
      obtain ⟨lexed, stop, node, hspelled, hparses⟩ := ih place
      exact ⟨lexed, stop, [node], hspelled, parsesItems_last hparses⟩
  | nextItem _ _ ihitem ihitems =>
      intro place
      obtain ⟨lexed, stop, node, hspelled, hparses⟩ := ihitem place
      obtain ⟨later, finish, nodes, hspelled', hparses'⟩ := ihitems (stop + 1)
      have hcomma := hspelled'.punctuation (c := ',') (by decide) (fun _ _ => rfl)
      exact ⟨_, finish, node :: nodes, hspelled.append hcomma (clear_cons (by decide) _),
        parsesItems_cons hparses hparses'⟩
  | lastMember hkey _ ih =>
      intro place
      obtain ⟨content, start, stop, next, last, lexed, finish, node, hspelled, hparses⟩ :=
        Grammar.spelled_member hkey ih place
      exact ⟨_, finish, _, hspelled, parsesMembers_last hparses⟩
  | nextMember hkey _ _ ihitem ihmembers =>
      intro place
      obtain ⟨content, start, stop, next, last, lexed, finish, node, hspelled, hparses⟩ :=
        Grammar.spelled_member hkey ihitem place
      obtain ⟨later, finish', members, hspelled', hparses'⟩ := ihmembers (finish + 1)
      have hcomma := hspelled'.punctuation (c := ',') (by decide) (fun _ _ => rfl)
      have hboth := hspelled.append hcomma (clear_cons (by decide) _)
      rw [List.append_assoc, List.cons_append] at hboth
      exact ⟨_, finish', _, hboth, parsesMembers_cons hparses hparses'⟩

end Values

end Json
end CodeAudit
