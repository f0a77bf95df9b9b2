import CodeAudit.Json.Fault
import CodeAudit.Json.Numeral

/-!
# Lexemes of a JSON document

The text of a document is cut into punctuation, words, numerals and quoted texts, each with the
places before and after it.  Where the text stops being JSON the list ends with a lexeme that
holds the fault.  There are two ways to read: *strictly*, when the value is wanted, and *loosely*,
when it is skipped.  Loose reading does not decode quoted texts, so it accepts half of a surrogate
pair; some faults have another cause or place in the two ways, and a failed lexeme holds both.
-/

namespace CodeAudit
namespace Json

/-- A kind of lexeme. -/
inductive Token where
  | openList
  | closeList
  | openObject
  | closeObject
  | colon
  | comma
  | null
  | truth (value : Bool)
  | number (numeral : Numeral)
  | text (content : Except Fault String)
  | failed (quoted : Bool) (strict loose : Fault)

/-- A token between two places. -/
structure Lexeme where
  token : Token
  start : Nat
  stop : Nat

/-- A piece of a quoted text: a character as it stands, an escaped character, or a UTF-16 unit. -/
inductive Piece where
  | plain (c : Char)
  | escaped (c : Char)
  | codeUnit (code : Nat)

/-- What follows the pieces of a quoted text: its closing quote, or a fault.  The fault is another one
if the first half of a surrogate pair stands before it. -/
inductive TextEnd where
  | closed (stop : Nat) (rest : List Char)
  | failed (strict loose afterLead : Fault)

/-- The value of a hexadecimal digit. -/
def hexValue? (c : Char) : Option Nat :=
  if '0' ≤ c && c ≤ '9' then some (c.toNat - 48)
  else if 'a' ≤ c && c ≤ 'f' then some (c.toNat - 87)
  else if 'A' ≤ c && c ≤ 'F' then some (c.toNat - 55)
  else none

/-- The value of four hexadecimal digits. -/
def hexUnit? (a b c d : Char) : Option Nat := do
  return (((← hexValue? a) * 16 + (← hexValue? b)) * 16 + (← hexValue? c)) * 16 + (← hexValue? d)

/-- The character that an escape letter stands for. -/
def simpleEscape? (c : Char) : Option Char :=
  match c with
  | '"' => some '"'
  | '\\' => some '\\'
  | '/' => some '/'
  | 'b' => some (Char.ofNat 8)
  | 'f' => some (Char.ofNat 12)
  | 'n' => some '\n'
  | 'r' => some '\r'
  | 't' => some '\t'
  | _ => none

/-- The fault of a unit escape whose four digits should begin `rest`: it needs four bytes. -/
def unitFault (place : Nat) (rest : List Char) : Fault :=
  let bytes := (String.ofList (rest.take 4)).utf8ByteSize
  if bytes < 4 then ⟨.endInText, place + bytes⟩ else ⟨.invalidEscape, place + 4⟩

/-- The pieces of a quoted text after its opening quote, each with the place after it. -/
def piecesOf (place : Nat) : List Char → List (Piece × Nat) × TextEnd
  | [] =>
    let fault : Fault := ⟨.endInText, place⟩
    ([], .failed fault fault fault)
  | '"' :: rest => ([], .closed (place + 1) rest)
  | '\\' :: 'u' :: a :: b :: c :: d :: rest =>
    match hexUnit? a b c d with
    | some code =>
      let (pieces, finish) := piecesOf (place + 6) rest
      ((.codeUnit code, place + 6) :: pieces, finish)
    | none =>
      let fault := unitFault (place + 2) [a, b, c, d]
      ([], .failed fault fault fault)
  | '\\' :: 'u' :: rest =>
    let fault := unitFault (place + 2) rest
    ([], .failed fault fault fault)
  | '\\' :: c :: rest =>
    match simpleEscape? c with
    | some escaped =>
      let (pieces, finish) := piecesOf (place + 2) rest
      ((.escaped escaped, place + 2) :: pieces, finish)
    | none =>
      let fault : Fault := ⟨.invalidEscape, place + 2⟩
      ([], .failed fault fault ⟨.unfinishedSurrogate, place + 2⟩)
  | c :: rest =>
    if c = '\\' then
      let fault : Fault := ⟨.endInText, place + 1⟩
      ([], .failed fault fault fault)
    else if c.toNat < 32 then
      ([], .failed ⟨.controlCharacter, place + 1⟩ ⟨.controlCharacter, place⟩
        ⟨.unfinishedSurrogate, place + 1⟩)
    else
      let (pieces, finish) := piecesOf (place + c.utf8Size) rest
      ((.plain c, place + c.utf8Size) :: pieces, finish)

/-- The first half of a surrogate pair. -/
def isLeadUnit (code : Nat) : Bool := 0xd800 ≤ code && code ≤ 0xdbff

/-- The second half of a surrogate pair. -/
def isTrailUnit (code : Nat) : Bool := 0xdc00 ≤ code && code ≤ 0xdfff

/-- The character of a surrogate pair. -/
def pairedChar (lead trail : Nat) : Char :=
  Char.ofNat ((lead - 0xd800) * 0x400 + (trail - 0xdc00) + 0x10000)

/-- The fault of the first half of a surrogate pair at the end of the pieces. -/
def TextEnd.leadFault : TextEnd → Fault
  | .closed stop _ => ⟨.unfinishedSurrogate, stop⟩
  | .failed _ _ afterLead => afterLead

/-- The characters of the pieces of a quoted text, when every surrogate has its other half; `atEnd`
is the fault of a first half at the end. -/
def decodePieces (atEnd : Fault) : List (Piece × Nat) → Except Fault (List Char)
  | [] => .ok []
  | (.plain c, _) :: rest | (.escaped c, _) :: rest => do return c :: (← decodePieces atEnd rest)
  | (.codeUnit lead, place) :: (.codeUnit trail, next) :: rest =>
    if isLeadUnit lead then
      if isTrailUnit trail then do return pairedChar lead trail :: (← decodePieces atEnd rest)
      else .error ⟨.loneSurrogate, next⟩
    else if isTrailUnit lead then .error ⟨.loneSurrogate, place⟩
    else do return Char.ofNat lead :: (← decodePieces atEnd ((.codeUnit trail, next) :: rest))
  | (.codeUnit code, place) :: rest =>
    if isTrailUnit code then .error ⟨.loneSurrogate, place⟩
    else if isLeadUnit code then
      match rest with
      | [] => .error atEnd
      | (.escaped _, _) :: _ => .error ⟨.unfinishedSurrogate, place + 2⟩
      | _ => .error ⟨.unfinishedSurrogate, place + 1⟩
    else do return Char.ofNat code :: (← decodePieces atEnd rest)

/-- The token of a quoted text after its opening quote, the place after it, and what follows. -/
def quotedToken (place : Nat) (rest : List Char) : Token × Nat × List Char :=
  let (pieces, finish) := piecesOf place rest
  let decoded := decodePieces finish.leadFault pieces
  match finish with
  | .closed stop rest => (.text (decoded.map String.ofList), stop, rest)
  | .failed strict loose _ =>
    match decoded with
    | .ok _ => (.failed true strict loose, place, [])
    | .error fault => (.failed true fault loose, place, [])

/-- The digits at the beginning of a text, and what follows them. -/
def digitsOf : List Char → List Nat × List Char
  | [] => ([], [])
  | c :: rest =>
    if c.isDigit then
      let (digits, rest) := digitsOf rest
      ((c.toNat - 48) :: digits, rest)
    else ([], c :: rest)

/-- A numeral, its length and what follows it; or the strict and the loose fault. -/
abbrev NumeralReading := Except (Fault × Fault) (Numeral × Nat × List Char)

/-- Reads the exponent of a numeral, if there is one. -/
def readExponent (numeral : Numeral) (place : Nat) (text : List Char) : NumeralReading :=
  match text with
  | c :: rest =>
    if c = 'e' || c = 'E' then
      let (down, signed, rest) :=
        match rest with
        | '+' :: rest => (false, 1, rest)
        | '-' :: rest => (true, 1, rest)
        | _ => (false, 0, rest)
      let place := place + 1 + signed
      match digitsOf rest with
      | ([], []) => .error (⟨.endInValue, place⟩, ⟨.invalidNumber, place⟩)
      | ([], _ :: _) => .error (⟨.invalidNumber, place + 1⟩, ⟨.invalidNumber, place + 1⟩)
      | (digits, rest) =>
        .ok ({ numeral with exponent := some (down, digits) }, place + digits.length, rest)
    else .ok (numeral, place, text)
  | [] => .ok (numeral, place, text)

/-- Reads the fraction of a numeral, if there is one, and its exponent. -/
def readFraction (numeral : Numeral) (place : Nat) (text : List Char) : NumeralReading :=
  match text with
  | '.' :: rest =>
    match digitsOf rest with
    | ([], []) => .error (⟨.endInValue, place + 1⟩, ⟨.invalidNumber, place + 1⟩)
    | ([], _ :: _) => .error (⟨.invalidNumber, place + 2⟩, ⟨.invalidNumber, place + 2⟩)
    | (digits, rest) =>
      readExponent { numeral with fraction := some digits } (place + 1 + digits.length) rest
  | _ => readExponent numeral place text

/-- Reads a numeral after its sign: no second digit may follow a leading zero. -/
def readNumeral (negative : Bool) (place : Nat) (text : List Char) : NumeralReading :=
  match text with
  | [] => .error (⟨.endInValue, place⟩, ⟨.invalidNumber, place⟩)
  | c :: _ =>
    if c = '0' then
      match digitsOf text with
      | (_ :: _ :: _, _) => .error (⟨.invalidNumber, place + 2⟩, ⟨.invalidNumber, place + 2⟩)
      | (digits, rest) => readFraction ⟨negative, digits, none, none⟩ (place + 1) rest
    else if c.isDigit then
      let (digits, rest) := digitsOf text
      readFraction ⟨negative, digits, none, none⟩ (place + digits.length) rest
    else .error (⟨.invalidNumber, place + 1⟩, ⟨.invalidNumber, place + 1⟩)

/-- The token of a numeral, the place after it, and what follows. -/
def numberToken (negative : Bool) (place : Nat) (text : List Char) : Token × Nat × List Char :=
  match readNumeral negative place text with
  | .ok (numeral, stop, rest) => (.number numeral, stop, rest)
  | .error (strict, loose) => (.failed false strict loose, place, [])

/-- Reads the remaining letters of a word. -/
def wordToken (token : Token) (place : Nat) : (letters text : List Char) → Token × Nat × List Char
  | [], text => (token, place, text)
  | _ :: _, [] => (.failed false ⟨.endInValue, place⟩ ⟨.endInValue, place⟩, place, [])
  | letter :: letters, c :: rest =>
    if c = letter then wordToken token (place + 1) letters rest
    else (.failed false ⟨.expectedWord, place + 1⟩ ⟨.expectedWord, place + 1⟩, place, [])

/-- The token that begins with `c` at `start`, the place after it, and what follows. -/
def tokenAt (start : Nat) (c : Char) (rest : List Char) : Token × Nat × List Char :=
  let next := start + 1
  match c with
  | '[' => (.openList, next, rest)
  | ']' => (.closeList, next, rest)
  | '{' => (.openObject, next, rest)
  | '}' => (.closeObject, next, rest)
  | ':' => (.colon, next, rest)
  | ',' => (.comma, next, rest)
  | 'n' => wordToken .null next ['u', 'l', 'l'] rest
  | 't' => wordToken (.truth true) next ['r', 'u', 'e'] rest
  | 'f' => wordToken (.truth false) next ['a', 'l', 's', 'e'] rest
  | '"' => quotedToken next rest
  | '-' => numberToken true next rest
  | _ =>
    if c.isDigit then numberToken false start (c :: rest)
    else (.failed false ⟨.expectedValue, next⟩ ⟨.expectedValue, next⟩, next, [])

/-- A space between lexemes. -/
def isSpace (c : Char) : Bool := c = ' ' || c = '\n' || c = '\r' || c = '\t'

/-- The lexemes of a text that begins at `place`; `fuel` bounds the characters read. -/
def lexemesFrom : (fuel place : Nat) → List Char → List Lexeme
  | 0, _, _ | _, _, [] => []
  | fuel + 1, place, c :: rest =>
    if isSpace c then lexemesFrom fuel (place + 1) rest
    else
      let (token, stop, rest) := tokenAt place c rest
      ⟨token, place, stop⟩ :: lexemesFrom fuel stop rest

/-- The lexemes of a text. -/
def lexemes (text : String) : List Lexeme := lexemesFrom text.length 0 text.toList

end Json
end CodeAudit
