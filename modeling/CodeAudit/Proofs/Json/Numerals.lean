import CodeAudit.Proofs.Json.Lexing
import CodeAudit.Proofs.Json.Records

/-!
# Numerals in a printed text

A numeral ends where its next character does not continue it.  So a reading of a numeral that comes
to an end also does so in front of more text, wherever it stands; it is followed through exponent,
fraction and integer part.  The digits of a count are known, and absorbed to the count.  Those of
other numbers are not looked into: if the library reads a number back from its text alone, it also
does so in the middle of a document.

**Results.**
* `readNumeral_readsOn`: reading a numeral in front of more text.
* `spelled_count`: a count.
* `exists_spelled_of_readsBack`: a number that the library reads back.
-/

namespace CodeAudit
namespace Json

section Numerals

/-- How a text is read does not change where the text goes on, and it is read up to the same rest. -/
def ReadsOn
    {α : Type}
    (read : Nat → List Char → Except (Fault × Fault) (α × Nat × List Char))
    (text : List Char)
    (found : α)
    (rest : List Char) : Prop :=
  rest.length ≤ text.length ∧
    ∀ place, ∃ stop, ∀ more, (rest = [] → Clear more) →
      read place (text ++ more) = .ok (found, stop, rest ++ more)

variable {text rest more : List Char} {digits : List Nat} {numeral found : Numeral}
variable {place stop : Nat}

theorem Clear.not_continues
    {c : Char}
    (hclear : Clear (c :: more)) :
    continuesNumeral c = false :=
  hclear c rfl

theorem digitsOf_append
    (hdigits : digitsOf text = (digits, rest))
    (hmore : rest = [] → Clear more) :
    digitsOf (text ++ more) = (digits, rest ++ more) := by
  induction text generalizing digits with
  | nil =>
      obtain ⟨rfl, rfl⟩ : [] = digits ∧ [] = rest := Prod.mk.inj hdigits
      cases more with
      | nil =>
          rfl
      | cons c more =>
          have hdigit : c.isDigit = false := by
            have hclear := (hmore rfl).not_continues
            simp_all [continuesNumeral]
          simp [digitsOf, hdigit]
  | cons c text ih =>
      rw [List.cons_append, digitsOf]
      rw [digitsOf] at hdigits
      by_cases hdigit : c.isDigit = true
      · rw [if_pos hdigit] at hdigits ⊢
        obtain ⟨rfl, rfl⟩ := Prod.mk.inj hdigits
        rw [ih rfl]
      · rw [if_neg hdigit] at hdigits ⊢
        obtain ⟨rfl, rfl⟩ := Prod.mk.inj hdigits
        rfl

theorem length_digitsOf
    (hdigits : digitsOf text = (digits, rest)) :
    digits.length + rest.length = text.length := by
  induction text generalizing digits with
  | nil =>
      obtain ⟨rfl, rfl⟩ : [] = digits ∧ [] = rest := Prod.mk.inj hdigits
      rfl
  | cons c text ih =>
      rw [digitsOf] at hdigits
      split at hdigits
      · obtain ⟨rfl, rfl⟩ := Prod.mk.inj hdigits
        have hlength := ih rfl
        rw [List.length_cons, List.length_cons]
        omega
      · obtain ⟨rfl, rfl⟩ := Prod.mk.inj hdigits
        exact Nat.zero_add _

/-- The sign behind the mark of an exponent, its length, and what follows it. -/
def exponentSign : List Char → Bool × Nat × List Char
  | '+' :: rest => (false, 1, rest)
  | '-' :: rest => (true, 1, rest)
  | text => (false, 0, text)

theorem exponentSign_append
    (hne : text ≠ [])
    (more : List Char) :
    exponentSign (text ++ more) =
      ((exponentSign text).1, (exponentSign text).2.1, (exponentSign text).2.2 ++ more) := by
  cases text with
  | nil =>
      exact absurd rfl hne
  | cons c text =>
      rw [List.cons_append]
      by_cases hplus : c = '+'
      · subst hplus
        rfl
      · by_cases hminus : c = '-'
        · subst hminus
          rfl
        · simp [exponentSign, hplus, hminus]

/-- Reads the digits of an exponent, of which there has to be one. -/
def exponentDigits (numeral : Numeral) (down : Bool) (place : Nat) (text : List Char) :
    NumeralReading :=
  match digitsOf text with
  | ([], []) => .error (⟨.endInValue, place⟩, ⟨.invalidNumber, place⟩)
  | ([], _ :: _) => .error (⟨.invalidNumber, place + 1⟩, ⟨.invalidNumber, place + 1⟩)
  | (digits, rest) =>
    .ok ({ numeral with exponent := some (down, digits) }, place + digits.length, rest)

/-- Behind its mark an exponent is a sign, which may be missing, and digits. -/
theorem readExponent_of_mark
    {c : Char}
    (hmark : c = 'e' ∨ c = 'E')
    (numeral : Numeral)
    (place : Nat)
    (text : List Char) :
    readExponent numeral place (c :: text) =
      exponentDigits numeral (exponentSign text).1 (place + 1 + (exponentSign text).2.1)
        (exponentSign text).2.2 := by
  unfold exponentSign
  split
  · simp only [readExponent, Bool.or_eq_true, decide_eq_true_eq, hmark, if_true]
    rfl
  · simp only [readExponent, Bool.or_eq_true, decide_eq_true_eq, hmark, if_true]
    rfl
  · simp only [readExponent, Bool.or_eq_true, decide_eq_true_eq, hmark, if_true]
    rfl

theorem exponentDigits_eq_ok_iff
    {down : Bool} :
    exponentDigits numeral down place text = .ok (found, stop, rest) ↔
      ∃ d digits, digitsOf text = (d :: digits, rest) ∧
        { numeral with exponent := some (down, d :: digits) } = found ∧
        place + (d :: digits).length = stop := by
  unfold exponentDigits
  rcases digitsOf text with ⟨_ | ⟨d, digits⟩, after⟩
  · cases after <;> simp
  · cases after <;> simp [and_comm, and_assoc]

theorem length_exponentSign
    (text : List Char) :
    (exponentSign text).2.2.length ≤ text.length := by
  unfold exponentSign
  split
  · exact Nat.le_succ _
  · exact Nat.le_succ _
  · exact Nat.le_refl _

theorem readExponent_of_clear
    (hclear : Clear text)
    (numeral : Numeral)
    (place : Nat) :
    readExponent numeral place text = .ok (numeral, place, text) := by
  cases text with
  | nil =>
      rfl
  | cons c text =>
      have hmark := hclear.not_continues
      simp_all [continuesNumeral, readExponent]

theorem readExponent_readsOn
    (hread : readExponent numeral place text = .ok (found, stop, rest)) :
    ReadsOn (readExponent numeral) text found rest := by
  cases text with
  | nil =>
      rw [readExponent_of_clear (by simp [Clear])] at hread
      obtain ⟨rfl, -, rfl⟩ : numeral = found ∧ place = stop ∧ [] = rest := by
        simpa using hread
      exact ⟨Nat.le_refl _, fun place => ⟨place, fun more hmore =>
        readExponent_of_clear (hmore rfl) numeral place⟩⟩
  | cons c text =>
      by_cases hmark : c = 'e' ∨ c = 'E'
      · rw [readExponent_of_mark hmark, exponentDigits_eq_ok_iff] at hread
        obtain ⟨d, digits, hdigits, rfl, -⟩ := hread
        have hne : text ≠ [] := by
          rintro rfl
          cases hdigits
        refine ⟨?_, fun place =>
          ⟨place + 1 + (exponentSign text).2.1 + (d :: digits).length, fun more hmore => ?_⟩⟩
        · have hlength := length_digitsOf hdigits
          have hsign := length_exponentSign text
          rw [List.length_cons]
          omega
        · rw [List.cons_append, readExponent_of_mark hmark, exponentSign_append hne,
            exponentDigits_eq_ok_iff]
          exact ⟨d, digits, digitsOf_append hdigits hmore, rfl, rfl⟩
      · have hends : ∀ place more,
            readExponent numeral place (c :: more) = .ok (numeral, place, c :: more) := by
          intro place more
          simp [readExponent, hmark]
        rw [hends] at hread
        obtain ⟨rfl, -, rfl⟩ : numeral = found ∧ place = stop ∧ c :: text = rest := by
          simpa using hread
        exact ⟨Nat.le_refl _, fun place => ⟨place, fun more _ => hends place _⟩⟩

/-- Behind its point a fraction has a digit, and then there may be an exponent. -/
theorem readFraction_of_point :
    readFraction numeral place ('.' :: text) = .ok (found, stop, rest) ↔
      ∃ d digits after, digitsOf text = (d :: digits, after) ∧
        readExponent { numeral with fraction := some (d :: digits) }
          (place + 1 + (d :: digits).length) after = .ok (found, stop, rest) := by
  rw [readFraction]
  rcases digitsOf text with ⟨_ | ⟨d, digits⟩, after⟩
  · cases after <;> simp
  · cases after <;> simp

theorem readFraction_of_other
    {c : Char}
    (hpoint : c ≠ '.')
    (numeral : Numeral)
    (place : Nat)
    (text : List Char) :
    readFraction numeral place (c :: text) = readExponent numeral place (c :: text) := by
  simp [readFraction, hpoint]

theorem readFraction_of_clear
    (hclear : Clear text)
    (numeral : Numeral)
    (place : Nat) :
    readFraction numeral place text = .ok (numeral, place, text) := by
  cases text with
  | nil =>
      rfl
  | cons c text =>
      have hpoint : c ≠ '.' := by
        have hcontinues := hclear.not_continues
        simp_all [continuesNumeral]
      rw [readFraction_of_other hpoint, readExponent_of_clear hclear]

theorem readFraction_readsOn
    (hread : readFraction numeral place text = .ok (found, stop, rest)) :
    ReadsOn (readFraction numeral) text found rest := by
  cases text with
  | nil =>
      rw [readFraction_of_clear (by simp [Clear])] at hread
      obtain ⟨rfl, -, rfl⟩ : numeral = found ∧ place = stop ∧ [] = rest := by
        simpa using hread
      exact ⟨Nat.le_refl _, fun place => ⟨place, fun more hmore =>
        readFraction_of_clear (hmore rfl) numeral place⟩⟩
  | cons c text =>
      by_cases hpoint : c = '.'
      · subst hpoint
        obtain ⟨d, digits, after, hdigits, hexponent⟩ := readFraction_of_point.mp hread
        obtain ⟨hlength, hmoves⟩ := readExponent_readsOn hexponent
        have hafter := length_digitsOf hdigits
        refine ⟨by rw [List.length_cons]; omega, fun place => ?_⟩
        obtain ⟨stop, hstop⟩ := hmoves (place + 1 + (d :: digits).length)
        refine ⟨stop, fun more hmore => ?_⟩
        refine readFraction_of_point.mpr ⟨d, digits, _, ?_, hstop more hmore⟩
        apply digitsOf_append hdigits
        rintro rfl
        exact hmore (List.eq_nil_of_length_eq_zero (Nat.le_zero.mp hlength))
      · rw [readFraction_of_other hpoint] at hread
        obtain ⟨hlength, hmoves⟩ := readExponent_readsOn hread
        refine ⟨hlength, fun place => ?_⟩
        obtain ⟨stop, hstop⟩ := hmoves place
        refine ⟨stop, fun more hmore => ?_⟩
        rw [List.cons_append, readFraction_of_other hpoint]
        exact hstop more hmore

/-- A numeral begins with a digit; behind a leading zero there is no second one. -/
theorem readNumeral_eq_ok_iff
    {negative : Bool} :
    readNumeral negative place text = .ok (found, stop, rest) ↔
      ∃ d digits after, digitsOf text = (d :: digits, after) ∧
        (text.head? = some '0' → digits = []) ∧
        readFraction ⟨negative, d :: digits, none, none⟩ (place + (d :: digits).length) after =
          .ok (found, stop, rest) := by
  cases text with
  | nil =>
      simp [readNumeral, digitsOf]
  | cons c text =>
      have hdigits : digitsOf (c :: text) =
          if c.isDigit then ((c.toNat - 48) :: (digitsOf text).1, (digitsOf text).2)
          else ([], c :: text) := by
        rw [digitsOf]
      by_cases hzero : c = '0'
      · subst hzero
        have hdigit : ('0').isDigit = true := by decide
        rw [if_pos hdigit] at hdigits
        rw [readNumeral, if_pos rfl, hdigits]
        rcases digitsOf text with ⟨_ | ⟨d, digits⟩, after⟩ <;> simp
      · by_cases hdigit : c.isDigit = true
        · rw [if_pos hdigit] at hdigits
          simp [readNumeral, hzero, hdigit, hdigits]
        · rw [if_neg hdigit] at hdigits
          simp [readNumeral, hzero, hdigit, hdigits]

theorem readNumeral_readsOn
    {negative : Bool}
    (hread : readNumeral negative place text = .ok (found, stop, rest)) :
    rest.length < text.length ∧ ReadsOn (readNumeral negative) text found rest := by
  obtain ⟨d, digits, after, hdigits, hzero, hfraction⟩ := readNumeral_eq_ok_iff.mp hread
  obtain ⟨hlength, hmoves⟩ := readFraction_readsOn hfraction
  have hafter := length_digitsOf hdigits
  rw [List.length_cons] at hafter
  have hhead : ∀ more, (text ++ more).head? = text.head? := by
    intro more
    cases text with
    | nil =>
        cases hdigits
    | cons c text =>
        rfl
  refine ⟨by omega, by omega, fun place => ?_⟩
  obtain ⟨stop, hstop⟩ := hmoves (place + (d :: digits).length)
  refine ⟨stop, fun more hmore => ?_⟩
  refine readNumeral_eq_ok_iff.mpr ⟨d, digits, _, ?_, ?_, hstop more hmore⟩
  · apply digitsOf_append hdigits
    rintro rfl
    exact hmore (List.eq_nil_of_length_eq_zero (Nat.le_zero.mp hlength))
  · rw [hhead]
    exact hzero

end Numerals

section Tokens

variable {c : Char} {text rest after : List Char} {place stop : Nat} {found : Numeral}

theorem tokenAt_of_isDigit
    (hdigit : c.isDigit = true)
    (place : Nat)
    (rest : List Char) :
    tokenAt place c rest = numberToken false place (c :: rest) := by
  unfold tokenAt
  split
  all_goals first
    | exact absurd hdigit (by decide)
    | exact if_pos hdigit

theorem numberToken_eq_number
    {negative : Bool} :
    numberToken negative place text = (.number found, stop, rest) ↔
      readNumeral negative place text = .ok (found, stop, rest) := by
  unfold numberToken
  cases readNumeral negative place text <;> simp [Prod.ext_iff]

theorem wordToken_ne_number
    {word : Token}
    (hword : word ≠ .number found)
    (place : Nat)
    (letters text : List Char) :
    (wordToken word place letters text).1 ≠ .number found := by
  induction letters generalizing place text with
  | nil =>
      exact hword
  | cons letter letters ih =>
      cases text with
      | nil =>
          simp [wordToken]
      | cons c text =>
          rw [wordToken]
          split
          · exact ih _ _
          · simp

theorem quotedToken_ne_number
    (place : Nat)
    (text : List Char) :
    (quotedToken place text).1 ≠ .number found := by
  unfold quotedToken
  simp only
  split
  · simp
  · split <;> simp

/-- Only a digit or a minus sign begins a numeral. -/
theorem readNumeral_of_tokenAt
    (htoken : tokenAt place c rest = (.number found, stop, after)) :
    c = '-' ∧ readNumeral true (place + 1) rest = .ok (found, stop, after) ∨
      c.isDigit = true ∧ readNumeral false place (c :: rest) = .ok (found, stop, after) := by
  have hfirst : (tokenAt place c rest).1 = .number found := by
    rw [htoken]
  by_cases hdigit : c.isDigit = true
  · rw [tokenAt_of_isDigit hdigit, numberToken_eq_number] at htoken
    exact Or.inr ⟨hdigit, htoken⟩
  · left
    unfold tokenAt at hfirst
    split at hfirst
    case h_8 => exact absurd hfirst (wordToken_ne_number (by simp) _ _ _)
    case h_9 => exact absurd hfirst (wordToken_ne_number (by simp) _ _ _)
    case h_7 => exact absurd hfirst (wordToken_ne_number (by simp) _ _ _)
    case h_10 => exact absurd hfirst (quotedToken_ne_number _ _)
    case h_11 => exact ⟨rfl, numberToken_eq_number.mp htoken⟩
    case h_12 =>
      rw [if_neg hdigit] at hfirst
      cases hfirst
    all_goals cases hfirst

/-- A token of a numeral is read alike wherever it stands. -/
theorem tokenAt_readsOn
    (htoken : tokenAt place c rest = (.number found, stop, after)) :
    after.length ≤ rest.length ∧
      ∀ place, ∃ stop, ∀ more, (after = [] → Clear more) →
        tokenAt place c (rest ++ more) = (.number found, stop, after ++ more) := by
  rcases readNumeral_of_tokenAt htoken with ⟨rfl, hread⟩ | ⟨hdigit, hread⟩
  · obtain ⟨-, hlength, hmoves⟩ := readNumeral_readsOn hread
    refine ⟨hlength, fun place => ?_⟩
    obtain ⟨stop, hstop⟩ := hmoves (place + 1)
    exact ⟨stop, fun more hmore => numberToken_eq_number.mpr (hstop more hmore)⟩
  · obtain ⟨hlength, -, hmoves⟩ := readNumeral_readsOn hread
    refine ⟨Nat.le_of_lt_succ hlength, fun place => ?_⟩
    obtain ⟨stop, hstop⟩ := hmoves place
    refine ⟨stop, fun more hmore => ?_⟩
    rw [tokenAt_of_isDigit hdigit]
    exact numberToken_eq_number.mpr (hstop more hmore)

end Tokens

section Numbers

variable {fuel place : Nat} {text : List Char}

/-- What gives no lexeme gives none in front of other text, either. -/
theorem spelled_of_no_lexemes
    (hlexed : lexemesFrom fuel place text = [])
    (hfuel : text.length ≤ fuel)
    (start : Nat) :
    ∃ stop, Spelled start text [] stop := by
  induction text generalizing fuel place start with
  | nil =>
      exact ⟨start, Spelled.nil start⟩
  | cons c text ih =>
      cases fuel with
      | zero =>
          simp at hfuel
      | succ fuel =>
          rw [lexemesFrom] at hlexed
          split at hlexed
          · next hspace =>
              obtain ⟨stop, hstop⟩ := ih hlexed (by simpa using hfuel) (start + 1)
              exact ⟨stop, Spelled.space hspace hstop⟩
          · cases hlexed

/-- A text that is one numeral somewhere is that numeral in front of any text that ends it. -/
theorem spelled_of_number
    {found : Numeral}
    {first last : Nat}
    (hlexed : lexemesFrom fuel place text = [⟨.number found, first, last⟩])
    (hfuel : text.length ≤ fuel)
    (begin : Nat) :
    ∃ start stop finish, Spelled begin text [⟨.number found, start, stop⟩] finish := by
  induction text generalizing fuel place begin with
  | nil =>
      cases fuel <;> cases hlexed
  | cons c text ih =>
      cases fuel with
      | zero =>
          simp at hfuel
      | succ fuel =>
          rw [lexemesFrom] at hlexed
          split at hlexed
          · next hspace =>
              obtain ⟨start, stop, finish, hspelled⟩ := ih hlexed (by simpa using hfuel) (begin + 1)
              exact ⟨start, stop, finish, Spelled.space hspace hspelled⟩
          · next hspace =>
              obtain ⟨token, last, after, htoken⟩ : ∃ token last after,
                  tokenAt place c text = (token, last, after) := ⟨_, _, _, rfl⟩
              rw [htoken] at hlexed
              obtain ⟨hlexeme, hrest⟩ := List.cons.inj hlexed
              obtain rfl : token = .number found := (Lexeme.mk.inj hlexeme).1
              obtain ⟨hlength, hmoves⟩ := tokenAt_readsOn htoken
              obtain ⟨stop, hstop⟩ := hmoves begin
              have hafter : after.length ≤ fuel := Nat.le_trans hlength (by simpa using hfuel)
              obtain ⟨finish, hfinish⟩ := spelled_of_no_lexemes hrest hafter stop
              refine ⟨begin, stop, finish, fun more later hmore hlexes => ?_⟩
              refine Lexes.token (by simpa using hspace) (hstop more fun _ => hmore) ?_
                (hfinish more later hmore hlexes)
              simpa using hlength

end Numbers

section Counts

/-- The digits of a count, as numbers. -/
def digitValues (n : Nat) : List Nat := (Nat.toDigits 10 n).map fun c => c.toNat - 48

theorem digitsOf_of_isDigit
    {text : List Char}
    (hdigits : ∀ c ∈ text, c.isDigit = true) :
    digitsOf text = (text.map fun c => c.toNat - 48, []) := by
  induction text with
  | nil =>
      rfl
  | cons c rest ih =>
      rw [List.forall_mem_cons] at hdigits
      rw [digitsOf, if_pos hdigits.1, ih hdigits.2]
      rfl

theorem digitsOf_toDigits
    (n : Nat) :
    digitsOf (Nat.toDigits 10 n) = (digitValues n, []) :=
  digitsOf_of_isDigit fun _ => Nat.isDigit_of_mem_toDigits (by decide) (by decide)

/-- Only zero is written with a zero in front. -/
theorem eq_zero_of_head?_toDigits
    (n : Nat)
    (hhead : (Nat.toDigits 10 n).head? = some '0') :
    n = 0 := by
  induction n using Nat.strongRecOn with
  | ind n ih =>
      by_cases hsmall : n < 10
      · rw [Nat.toDigits_of_lt_base hsmall] at hhead
        simpa using hhead
      · have hlarge : 10 ≤ n := Nat.not_lt.mp hsmall
        rw [Nat.toDigits_of_base_le (by decide) hlarge, List.head?_append] at hhead
        have hfirst : (Nat.toDigits 10 (n / 10)).head? = some '0' := by
          cases hdigits : Nat.toDigits 10 (n / 10) with
          | nil =>
              simp at hdigits
          | cons c rest =>
              simpa [hdigits] using hhead
        have hzero := ih (n / 10) (by omega) hfirst
        omega

theorem Numeral.absorbWhole_append
    {significand found : Nat}
    {digits : List Nat}
    (habsorb : absorbWhole significand digits = (found, 0))
    {d : Nat}
    (hle : found * 10 + d ≤ greatestSignificand) :
    absorbWhole significand (digits ++ [d]) = (found * 10 + d, 0) := by
  induction digits generalizing significand with
  | nil =>
      obtain ⟨rfl, -⟩ := Prod.mk.inj habsorb
      rw [List.nil_append, absorbWhole, if_neg (Nat.not_lt.mpr hle)]
      rfl
  | cons e digits ih =>
      rw [absorbWhole] at habsorb
      split at habsorb
      · simp at habsorb
      · next hnext =>
          rw [List.cons_append, absorbWhole, if_neg hnext]
          exact ih habsorb

/-- The digits of a count of 64 bits are all absorbed. -/
theorem Numeral.absorbWhole_digitValues
    (n : Nat)
    (hle : n ≤ greatestSignificand) :
    absorbWhole 0 (digitValues n) = (n, 0) := by
  induction n using Nat.strongRecOn with
  | ind n ih =>
      by_cases hsmall : n < 10
      · have hnone : absorbWhole 0 [] = (0, 0) := rfl
        rw [digitValues, Nat.toDigits_of_lt_base hsmall, List.map_singleton,
          Nat.toNat_digitChar_sub_48_of_lt_ten hsmall]
        simpa using absorbWhole_append hnone (d := n) (by omega)
      · have hlarge : 10 ≤ n := Nat.not_lt.mp hsmall
        have hdigits : digitValues n = digitValues (n / 10) ++ [n % 10] := by
          rw [digitValues, Nat.toDigits_of_base_le (by decide) hlarge, List.map_append,
            List.map_singleton, Nat.toNat_digitChar_sub_48_of_lt_ten (by omega)]
          rfl
        have hvalue : n / 10 * 10 + n % 10 = n := by omega
        have habsorb := absorbWhole_append (ih (n / 10) (by omega) (by omega))
          (d := n % 10) (by omega)
        rwa [← hdigits, hvalue] at habsorb

/-- A count of 64 bits gives a numeral that stands for it. -/
theorem spelled_count
    {n : Nat}
    (hn : n < 2 ^ 64)
    (place : Nat) :
    ∃ numeral stop, numeral.value = .integer n ∧
      Spelled place (digitText n).toList [⟨.number numeral, place, stop⟩] stop := by
  have hread : readNumeral false place (Nat.toDigits 10 n) =
      .ok (⟨false, digitValues n, none, none⟩, place + (digitValues n).length, []) := by
    cases hvalues : digitValues n with
    | nil =>
        simp [digitValues] at hvalues
    | cons d values =>
        rw [readNumeral_eq_ok_iff]
        refine ⟨d, values, [], by rw [digitsOf_toDigits, hvalues], ?_, rfl⟩
        intro hhead
        obtain rfl := eq_zero_of_head?_toDigits n hhead
        exact (List.cons.inj hvalues).2.symm
  obtain ⟨-, -, hmoves⟩ := readNumeral_readsOn hread
  obtain ⟨stop, hstop⟩ := hmoves place
  refine ⟨⟨false, digitValues n, none, none⟩, stop, ?_, ?_⟩
  · have hle : n ≤ Numeral.greatestSignificand := Nat.le_of_lt_succ hn
    simp [Numeral.value, Numeral.absorbWhole_digitValues n hle]
  · rw [digitText, String.toList_ofList]
    cases hdigits : Nat.toDigits 10 n with
    | nil =>
        simp at hdigits
    | cons c rest =>
        have hdigit : c.isDigit = true :=
          Nat.isDigit_of_mem_toDigits (b := 10) (n := n) (by decide) (by decide) (by simp [hdigits])
        have hspace : isSpace c = false := by
          rw [Bool.eq_false_iff]
          intro hspace
          simp only [isSpace, Bool.or_eq_true, decide_eq_true_eq] at hspace
          rcases hspace with ((rfl | rfl) | rfl) | rfl <;> exact absurd hdigit (by decide)
        apply spelled_token hspace
        intro more hmore
        rw [tokenAt_of_isDigit hdigit, numberToken_eq_number, ← List.cons_append, ← hdigits]
        exact hstop more fun _ => hmore

end Counts

section Reals

/-- The library reads a number back from its text. -/
def ReadsBack (x : Floating) : Prop :=
  Reader.real.parse (Value.real x).pretty = .ok (.real x)

/-- Whether what is read is a given number. -/
def isReal (x : Floating) : Except Fault Value → Bool
  | .ok (.real read) => read == x
  | _ => false

theorem isReal_iff
    {x : Floating}
    {read : Except Fault Value} :
    isReal x read = true ↔ read = .ok (.real x) := by
  unfold isReal
  split
  · simp
  · next hother =>
      simp only [Bool.false_eq_true, false_iff]
      exact fun heq => hother x heq

instance (x : Floating) : Decidable (ReadsBack x) :=
  decidable_of_iff _ isReal_iff

/-- Only a numeral is read as a real number. -/
theorem Reader.exists_of_real
    {node : Node}
    {value : Value}
    (hread : Reader.real node = .ok value) :
    ∃ numeral start stop, node = .number numeral start stop := by
  unfold Reader.real at hread
  split at hread
  · exact ⟨_, _, _, rfl⟩
  · cases hread

/-- A number is read from a numeral wherever it stands. -/
theorem Reader.real_number
    {numeral : Numeral}
    {start stop : Nat}
    {value : Value}
    (hread : Reader.real (.number numeral start stop) = .ok value)
    (start' stop' : Nat) :
    Reader.real (.number numeral start' stop') = .ok value := by
  simp only [Reader.real] at hread ⊢
  split at hread
  · exact hread
  · exact hread
  · cases hread

theorem exists_of_readNode
    {size fuel : Nat}
    {lexed rest : List Lexeme}
    {numeral : Numeral}
    {start stop : Nat}
    (hread : readNode size fuel lexed = (.number numeral start stop, rest)) :
    lexed = ⟨.number numeral, start, stop⟩ :: rest := by
  cases fuel with
  | zero =>
      simp [readNode, Node.brokenBy] at hread
  | succ fuel =>
      cases lexed with
      | nil =>
          simp [readNode, Node.brokenBy] at hread
      | cons lexeme lexed =>
          obtain ⟨token, first, last⟩ := lexeme
          cases token with
          | number other =>
              obtain ⟨hnode, rfl⟩ := Prod.mk.inj hread
              cases hnode
              rfl
          | openList =>
              simp only [readNode] at hread
              split at hread <;> cases hread
          | openObject =>
              simp only [readNode] at hread
              split at hread <;> cases hread
          | _ =>
              simp [readNode, Node.brokenBy] at hread

/-- The text of a number that is read back is one numeral. -/
theorem ReadsBack.lexemes_eq
    {x : Floating}
    (hreads : ReadsBack x) :
    ∃ numeral start stop,
      lexemes (numberText .double x) = [⟨.number numeral, start, stop⟩] ∧
        Reader.real (.number numeral start stop) = .ok (.real x) := by
  have hpretty : (Value.real x).pretty = numberText .double x := by
    simp [Value.pretty, Value.prettyAt, Value.scalarText]
  rw [ReadsBack, hpretty, Reader.parse, bind_eq_ok] at hreads
  obtain ⟨value, hread, htrailing⟩ := hreads
  obtain ⟨numeral, start, stop, hnode⟩ := Reader.exists_of_real hread
  rcases hfound : readNode (numberText .double x).utf8ByteSize
    (2 * (lexemes (numberText .double x)).length + 2) (lexemes (numberText .double x)) with
    ⟨node, rest⟩
  have hdocument : document (numberText .double x) = ⟨node, rest.head?.map Lexeme.start⟩ := by
    simp only [document, hfound]
  rw [hdocument] at hread hnode htrailing
  simp only at hread hnode htrailing
  subst hnode
  cases rest with
  | nil =>
      obtain rfl : value = .real x := Except.ok.inj htrailing
      exact ⟨numeral, start, stop, exists_of_readNode hfound, hread⟩
  | cons lexeme rest =>
      cases htrailing

/-- A number that the library reads back is also read back in front of other text. -/
theorem exists_spelled_of_readsBack
    {x : Floating}
    (hreads : ReadsBack x) :
    ∃ numeral, (∀ start stop, Reader.real (.number numeral start stop) = .ok (.real x)) ∧
      ∀ place, ∃ start stop finish,
        Spelled place (numberText .double x).toList [⟨.number numeral, start, stop⟩] finish := by
  obtain ⟨numeral, start, stop, hlexemes, hread⟩ := hreads.lexemes_eq
  refine ⟨numeral, Reader.real_number hread, fun place => ?_⟩
  exact spelled_of_number hlexemes (Nat.le_of_eq String.length_toList) place

end Reals

end Json
end CodeAudit
