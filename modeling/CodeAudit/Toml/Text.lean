import CodeAudit.Json.Lexeme

/-!
# Text in TOML

The four ways to write a text: in double or single quotes, on one line or, with three quotes, on
several.  Only double quotes know escapes.  A line feed right after three quotes does not count,
and two quotes may stand right before the closing three.
-/

namespace CodeAudit
namespace Toml

/-- A tab, or any character that is not a control character. -/
def isPlain (c : Char) : Bool := c = '\t' || (32 ≤ c.toNat && c.toNat ≠ 127)

/-- The character with a code, unless the code belongs to no character. -/
def charOfCode? (code : Nat) : Option Char :=
  if code < 0xd800 || (0xdfff < code && code < 0x110000) then some (Char.ofNat code) else none

/-- The number that hexadecimal digits spell. -/
def hexNumber? (digits : List Char) : Option Nat :=
  digits.foldlM (fun number c => (Json.hexValue? c).map fun digit => number * 16 + digit) 0

/-- The character of an escape, after the backslash. -/
def readEscape : List Char → Option (Char × List Char)
  | 'b' :: rest => some (Char.ofNat 8, rest)
  | 't' :: rest => some ('\t', rest)
  | 'n' :: rest => some ('\n', rest)
  | 'f' :: rest => some (Char.ofNat 12, rest)
  | 'r' :: rest => some ('\r', rest)
  | '"' :: rest => some ('"', rest)
  | '\\' :: rest => some ('\\', rest)
  | 'u' :: rest => do
    let digits := rest.take 4
    if digits.length = 4 then
      return (← charOfCode? (← hexNumber? digits), rest.drop 4)
    else none
  | 'U' :: rest => do
    let digits := rest.take 8
    if digits.length = 8 then
      return (← charOfCode? (← hexNumber? digits), rest.drop 8)
    else none
  | _ => none

/-- A text of one line in double quotes, after the opening quote. -/
def readQuoted : (fuel : Nat) → List Char → Option (List Char × List Char)
  | 0, _ | _, [] => none
  | _ + 1, '"' :: rest => some ([], rest)
  | fuel + 1, '\\' :: rest => do
    let (c, rest) ← readEscape rest
    let (text, rest) ← readQuoted fuel rest
    return (c :: text, rest)
  | fuel + 1, c :: rest => do
    if isPlain c then
      let (text, rest) ← readQuoted fuel rest
      return (c :: text, rest)
    else none

/-- A text of one line in single quotes, after the opening quote. -/
def readLiteral : List Char → Option (List Char × List Char)
  | [] => none
  | '\'' :: rest => some ([], rest)
  | c :: rest => do
    if isPlain c then
      let (text, rest) ← readLiteral rest
      return (c :: text, rest)
    else none

/-- The text after a line ending, if the text begins with one. -/
def afterLineEnd? : List Char → Option (List Char)
  | '\n' :: rest => some rest
  | '\r' :: '\n' :: rest => some rest
  | _ => none

/-- The text without the blanks and line endings at its beginning. -/
def skipBlankLines : List Char → List Char
  | ' ' :: rest | '\t' :: rest | '\n' :: rest => skipBlankLines rest
  | '\r' :: '\n' :: rest => skipBlankLines rest
  | rest => rest

/-- The text after a backslash at the end of a line, and after the blanks that follow it. -/
def afterFold? (text : List Char) : Option (List Char) :=
  (afterLineEnd? (text.dropWhile fun c => c = ' ' || c = '\t')).map skipBlankLines

/-- The quotes that still belong to a text of several lines, when three quotes may close it. -/
def closing? (quote : Char) (text : List Char) : Option (List Char × List Char) :=
  match (text.takeWhile fun c => c = quote).length with
  | 0 | 1 | 2 => none
  | 3 => some ([], text.drop 3)
  | 4 => some ([quote], text.drop 4)
  | _ => some ([quote, quote], text.drop 5)

/-- A text of several lines, after the opening quotes; `escapes` says whether it knows escapes. -/
def readLines (quote : Char) (escapes : Bool) : (fuel : Nat) → List Char → Option (List Char × List Char)
  | 0, _ => none
  | fuel + 1, text =>
    match closing? quote text with
    | some finish => some finish
    | none =>
      match text with
      | [] => none
      | c :: rest =>
        if c = '\\' && escapes then
          match afterFold? rest with
          | some rest => readLines quote escapes fuel rest
          | none => do
            let (c, rest) ← readEscape rest
            let (more, rest) ← readLines quote escapes fuel rest
            return (c :: more, rest)
        else
          match afterLineEnd? (c :: rest) with
          | some rest => do
            let (more, rest) ← readLines quote escapes fuel rest
            return ('\n' :: more, rest)
          | none => do
            if isPlain c then
              let (more, rest) ← readLines quote escapes fuel rest
              return (c :: more, rest)
            else none

/-- A text of any of the four ways, if one begins here. -/
def readText (text : List Char) : Option (String × List Char) :=
  let fuel := text.length + 1
  let found : Option (List Char × List Char) :=
    match text with
    | '"' :: '"' :: '"' :: rest => readLines '"' true fuel ((afterLineEnd? rest).getD rest)
    | '\'' :: '\'' :: '\'' :: rest => readLines '\'' false fuel ((afterLineEnd? rest).getD rest)
    | '"' :: rest => readQuoted fuel rest
    | '\'' :: rest => readLiteral rest
    | _ => none
  found.map fun (content, rest) => (String.ofList content, rest)

end Toml
end CodeAudit
