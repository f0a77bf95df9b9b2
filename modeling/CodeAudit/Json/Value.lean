import CodeAudit.Floating.Text

/-!
# JSON values and their text

A value keeps the members of an object in order.  `Value.compact` writes a value without any
space, `Value.pretty` one member or item a line, indented by two spaces; an empty list is `[]` and
an empty object `{}` in both.  A number that is not finite is written as `null`.
-/

namespace CodeAudit
namespace Json

/-- A JSON value; a 32-bit number is kept apart because it has a shorter text. -/
inductive Value where
  | null
  | truth (value : Bool)
  | integer (value : Int)
  | real (value : Floating)
  | single (value : Floating)
  | text (value : String)
  | list (items : List Value)
  | object (members : List (String × Value))
  deriving Inhabited

/-- The hexadecimal digit below 16. -/
def hexDigit (n : Nat) : Char :=
  if n < 10 then Char.ofNat (48 + n) else Char.ofNat (87 + n)

/-- A character inside quotes: control characters, quotes and backslashes are escaped. -/
def quotedChar (c : Char) : List Char :=
  if c = '"' then ['\\', '"']
  else if c = '\\' then ['\\', '\\']
  else if c = '\n' then ['\\', 'n']
  else if c = '\r' then ['\\', 'r']
  else if c = '\t' then ['\\', 't']
  else if c.toNat = 8 then ['\\', 'b']
  else if c.toNat = 12 then ['\\', 'f']
  else if c.toNat < 32 then
    ['\\', 'u', '0', '0', hexDigit (c.toNat / 16), hexDigit (c.toNat % 16)]
  else [c]

/-- A text in quotes. -/
def quoted (text : String) : String :=
  String.ofList ('"' :: (text.toList.flatMap quotedChar ++ ['"']))

/-- The text of a number in a format, `null` when it is not finite. -/
def numberText (format : BinaryFormat) (x : Floating) : String :=
  (x.shortestText? format).getD "null"

/-- Two spaces a level. -/
def indent (level : Nat) : String := String.ofList (List.replicate (2 * level) ' ')

namespace Value

/-- The text of a value that holds no other value. -/
def scalarText : Value → String
  | .null => "null"
  | .truth value => if value then "true" else "false"
  | .integer value => if value < 0 then "-" ++ digitText value.natAbs else digitText value.natAbs
  | .real value => numberText .double value
  | .single value => numberText .single value
  | .text value => quoted value
  | .list _ => "[]"
  | .object _ => "\x7b\x7d"

mutual

/-- The text without spaces. -/
def compact : Value → String
  | .list items => "[" ++ compactItems items ++ "]"
  | .object members => "\x7b" ++ compactMembers members ++ "\x7d"
  | value => value.scalarText

/-- Items, with a comma between them. -/
def compactItems : List Value → String
  | [] => ""
  | [value] => compact value
  | value :: rest => compact value ++ "," ++ compactItems rest

/-- Members, with a comma between them. -/
def compactMembers : List (String × Value) → String
  | [] => ""
  | [(key, value)] => quoted key ++ ":" ++ compact value
  | (key, value) :: rest => quoted key ++ ":" ++ compact value ++ "," ++ compactMembers rest

end

mutual

/-- The text at a level of indentation, one member or item a line. -/
def prettyAt (level : Nat) : Value → String
  | .list (item :: items) =>
    "[\n" ++ prettyItems (level + 1) (item :: items) ++ "\n" ++ indent level ++ "]"
  | .object (member :: members) =>
    "\x7b\n" ++ prettyMembers (level + 1) (member :: members) ++ "\n" ++ indent level ++ "\x7d"
  | value => value.scalarText

/-- Indented items, with a comma and a line feed between them. -/
def prettyItems (level : Nat) : List Value → String
  | [] => ""
  | [value] => indent level ++ prettyAt level value
  | value :: rest => indent level ++ prettyAt level value ++ ",\n" ++ prettyItems level rest

/-- Indented members, with a comma and a line feed between them. -/
def prettyMembers (level : Nat) : List (String × Value) → String
  | [] => ""
  | [(key, value)] => indent level ++ quoted key ++ ": " ++ prettyAt level value
  | (key, value) :: rest =>
    indent level ++ quoted key ++ ": " ++ prettyAt level value ++ ",\n"
      ++ prettyMembers level rest

end

/-- The text with one member or item a line. -/
def pretty (value : Value) : String := value.prettyAt 0

/-- The value of a number that may be missing. -/
def ofCount (n : Nat) : Value := .integer n

/-- `null` for nothing. -/
def ofOption {α : Type} (encode : α → Value) : Option α → Value
  | none => .null
  | some value => encode value

/-- A list of texts. -/
def ofTexts (texts : List String) : Value := .list (texts.map .text)

/-- The first member of an object with a key. -/
def member? (key : String) : Value → Option Value
  | .object members => members.lookup key
  | _ => none

/-- The text of a text value. -/
def asText? : Value → Option String
  | .text value => some value
  | _ => none

/-- The truth value. -/
def asTruth? : Value → Option Bool
  | .truth value => some value
  | _ => none

/-- A count: an integer that is not negative. -/
def asCount? : Value → Option Nat
  | .integer (.ofNat n) => some n
  | _ => none

/-- The number of a real value. -/
def asReal? : Value → Option Floating
  | .real value | .single value => some value
  | _ => none

/-- The items of a list. -/
def asList? : Value → Option (List Value)
  | .list items => some items
  | _ => none

/-- The members of an object. -/
def asObject? : Value → Option (List (String × Value))
  | .object members => some members
  | _ => none

/-- Reads a value that may be `null`. -/
def asOption? {α : Type} (decode : Value → Option α) : Value → Option (Option α)
  | .null => some none
  | value => (decode value).map some

/-- Reads every item of a list. -/
def asListOf? {α : Type} (decode : Value → Option α) (value : Value) : Option (List α) :=
  value.asList?.bind fun items => items.mapM decode

end Value

end Json
end CodeAudit
