import CodeAudit.Text.CaseTable
import CodeAudit.Text.Character

/-!
# Letter case

`lowerCase` is the full lower-case mapping of a text: every character on its own, except that a
capital sigma at the end of a word takes its final form.  `asciiLowerCase` changes the letters
from `A` to `Z` only, and `sameLetter` compares characters without regard to case.
-/

namespace CodeAudit
namespace Text

/-- The lower-case form of one character, without regard to its neighbours. -/
def lowerChar (c : Char) : List Char :=
  let n := c.toNat
  if n < 128 then [c.toLower]
  else if n == 0x130 then ['i', Char.ofNat 0x307]
  else
    match lowerRuns.find? fun (first, last, step, _) =>
        first ≤ n && n ≤ last && (n - first) % step == 0 with
    | some (_, _, _, offset) => [Char.ofNat ((n : Int) + offset).toNat]
    | none => [c]

/-- Whether the first character that is not skipped is a letter with a case. -/
def meetsCased (text : List Char) : Bool :=
  let ignorable (c : Char) : Bool :=
    if c.toNat < 128 then c == '\'' || c == '.' || c == ':' || c == '^' || c.toNat == 96
    else inTable caseIgnorableRanges c
  match (text.dropWhile ignorable).head? with
  | some c => if c.toNat < 128 then c.isAlpha else inTable casedRanges c
  | none => false

/-- The lower-case form of `text`, which follows the reversed characters `before`. -/
def lowerAfter (before : List Char) : (text : List Char) → List Char
  | [] => []
  | c :: rest =>
    let lowered :=
      if c.toNat == 0x3a3 then
        if meetsCased before && !meetsCased rest then [Char.ofNat 0x3c2] else [Char.ofNat 0x3c3]
      else lowerChar c
    lowered ++ lowerAfter (c :: before) rest

/-- The lower-case form of a text. -/
def lowerCase (text : String) : String := String.ofList (lowerAfter [] text.toList)

/-- The text with the letters from `A` to `Z` in lower case. -/
def asciiLowerCase (text : String) : String := String.ofList (text.toList.map Char.toLower)

/-- Whether two characters are the same but for case, the first one being ASCII.  Two characters
outside ASCII fold to ASCII letters: the Kelvin sign and the long s. -/
def sameLetter (letter c : Char) : Bool :=
  letter.toLower == c.toLower
    || letter.toLower == 'k' && c.toNat == 0x212a
    || letter.toLower == 's' && c.toNat == 0x17f

end Text
end CodeAudit
