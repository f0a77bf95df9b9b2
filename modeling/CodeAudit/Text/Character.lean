import CodeAudit.Text.CharacterTable

/-!
# Classes of characters

The text rules of an audit tell apart blank characters, word characters, alphanumeric characters
and digits.  All four classes are those of Unicode; on ASCII they are decided directly and above
ASCII by the tables of `Text.CharacterTable`.
-/

namespace CodeAudit
namespace Text

/-- Binary search for a range that holds `n` among the `width` ranges from position `low` on. -/
def searchRanges (table : Array (Nat × Nat)) (n : Nat) : (fuel low width : Nat) → Bool
  | 0, _, _ => false
  | fuel + 1, low, width =>
    let half := width / 2
    match table[low + half]? with
    | none => false
    | some (first, last) =>
      if n < first then searchRanges table n fuel low half
      else if last < n then searchRanges table n fuel (low + half + 1) (width - half - 1)
      else true

/-- Whether one of the sorted ranges of the table holds the code point of `c`. -/
def inTable (table : Array (Nat × Nat)) (c : Char) : Bool :=
  searchRanges table c.toNat (table.size.log2 + 2) 0 table.size

/-- White space of any kind. -/
def isBlank (c : Char) : Bool :=
  let n := c.toNat
  9 ≤ n && n ≤ 13 || n == 32 || n == 0x85 || n == 0xa0 || n == 0x1680
    || 0x2000 ≤ n && n ≤ 0x200a || n == 0x2028 || n == 0x2029 || n == 0x202f || n == 0x205f
    || n == 0x3000

/-- A character that a word is made of: a letter, mark, digit, connector or joiner. -/
def isWord (c : Char) : Bool :=
  if c.toNat < 128 then c.isAlphanum || c == '_' else inTable wordRanges c

/-- A letter, or a number of any kind. -/
def isAlphanumeric (c : Char) : Bool :=
  if c.toNat < 128 then c.isAlphanum else inTable alphanumericRanges c

/-- A decimal digit of any script. -/
def isDigit (c : Char) : Bool :=
  if c.toNat < 128 then c.isDigit else inTable digitRanges c

end Text
end CodeAudit
