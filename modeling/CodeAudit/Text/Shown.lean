import CodeAudit.Text.Character
import CodeAudit.Text.HiddenTable

/-!
# Texts in messages

A message shows a text in quotes.  Quotes, backslashes and characters that would not be seen are
written as escapes.
-/

namespace CodeAudit
namespace Text

/-- Whether a message cannot show a character as it is. -/
def isHidden (c : Char) : Bool := c.toNat < 32 || 127 ≤ c.toNat && inTable hiddenRanges c

/-- A character as a message shows it. -/
def shownChar (c : Char) : List Char :=
  if c = '"' then ['\\', '"']
  else if c = '\\' then ['\\', '\\']
  else if c = '\n' then ['\\', 'n']
  else if c = '\r' then ['\\', 'r']
  else if c = '\t' then ['\\', 't']
  else if c.toNat = 0 then ['\\', '0']
  else if isHidden c then
    ['\\', 'u', '{'] ++ Nat.toDigits 16 c.toNat ++ ['}']
  else [c]

/-- A text as a message shows it. -/
def shown (text : String) : String :=
  String.ofList ('"' :: (text.toList.flatMap shownChar ++ ['"']))

end Text
end CodeAudit
