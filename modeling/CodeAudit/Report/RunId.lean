import CodeAudit.Json.Reader
import CodeAudit.Text.Line

/-!
# Identifiers of runs

Every run has an identifier of 128 bits.  It is written as 32 hexadecimal digits in five groups.
It is read with or without the hyphens between the groups, in either case, and with hyphens also in
braces or after `urn:uuid:`, also in either case.
-/

namespace CodeAudit

open Json

/-- The identifier of a run. -/
structure RunId where
  bits : BitVec 128
  deriving DecidableEq

namespace RunId

instance : Inhabited RunId := ⟨⟨0⟩⟩

/-- The bits that tell how an identifier was made. -/
def kindMask : BitVec 128 := (15#128 <<< 76) ||| (3#128 <<< 62)

/-- What these bits are for an identifier that was made at random. -/
def randomKind : BitVec 128 := (4#128 <<< 76) ||| (2#128 <<< 62)

/-- The identifier made of random bits. -/
def ofRandom (bits : BitVec 128) : RunId := ⟨(bits &&& ~~~kindMask) ||| randomKind⟩

/-- The lowest `count` hexadecimal digits of a number, the highest one first. -/
def hexDigits : (count number : Nat) → List Char
  | 0, _ => []
  | count + 1, number => hexDigits count (number / 16) ++ [hexDigit (number % 16)]

/-- Hyphens between the five groups of 32 digits. -/
def grouped (digits : List Char) : List Char :=
  digits.take 8 ++ '-' :: (digits.drop 8).take 4 ++ '-' :: (digits.drop 12).take 4
    ++ '-' :: (digits.drop 16).take 4 ++ '-' :: digits.drop 20

/-- The written form. -/
def text (id : RunId) : String := String.ofList (grouped (hexDigits 32 id.bits.toNat))

/-- The number that hexadecimal digits spell. -/
def hexNumber? (digits : List Char) : Option Nat :=
  digits.foldlM (fun number c => (hexValue? c).map fun digit => number * 16 + digit) 0

/-- The identifier that 32 digits spell. -/
def ofDigits? (digits : List Char) : Option RunId :=
  if digits.length = 32 then
    (hexNumber? digits).map fun number => ⟨.ofNat 128 number⟩
  else none

/-- The identifier that digits in five groups spell. -/
def ofGroups? (text : List Char) : Option RunId :=
  let groups := Text.splitAt '-' text
  if groups.map List.length = [8, 4, 4, 4, 12] then ofDigits? groups.flatten else none

/-- What may stand in front of the digits. -/
def scheme : List Char := "urn:uuid:".toList

/-- The identifier that a text spells. -/
def ofText? (text : String) : Option RunId :=
  let letters := text.toList
  if letters.length = 32 then ofDigits? letters
  else if letters.head? = some '{' && letters.getLast? = some '}' then
    ofGroups? (letters.drop 1).dropLast
  else if scheme.isPrefixOf (letters.map Char.toLower) then ofGroups? (letters.drop scheme.length)
  else ofGroups? letters

/-- The JSON value of an identifier. -/
def toValue (id : RunId) : Value := .text id.text

/-- Reads an identifier into its written form. -/
def reader : Reader := Reader.formatted "a UUID" fun text => (ofText? text).map RunId.text

/-- The identifier of a value. -/
def ofValue? (value : Value) : Option RunId := value.asText?.bind ofText?

end RunId

end CodeAudit
