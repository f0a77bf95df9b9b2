import CodeAudit.Json.Lexeme
import CodeAudit.Text.Line
import CodeAudit.Toml.Value

/-!
# Numbers, words and moments in TOML

A word is a run of letters, digits and the signs that occur in numbers and moments.  It stands for
a truth value, an integer, a real number, or a date, a time or both.  Digits may be separated by
single underscores.  Integers have 64 bits.
-/

namespace CodeAudit
namespace Toml

/-- A character of a word. -/
def isWordChar (c : Char) : Bool := c.isAlphanum || ['_', '+', '-', '.', ':'].contains c

/-- Digits that an acceptable digit begins and ends, with single underscores between them; the
underscores are left out. -/
def plainDigits? (accepts : Char → Bool) : List Char → Option (List Char)
  | [] => none
  | [c] => if accepts c then some [c] else none
  | c :: '_' :: rest =>
    if accepts c then (plainDigits? accepts rest).map (c :: ·) else none
  | c :: rest => if accepts c then (plainDigits? accepts rest).map (c :: ·) else none

/-- The number that digits of a base spell. -/
def numberOf? (base : Nat) (digits : List Char) : Option Nat :=
  digits.foldlM (fun number c =>
    (Json.hexValue? c).bind fun digit => if digit < base then some (number * base + digit) else none)
    0

/-- Whether a character is a digit of a base. -/
def isDigitOf (base : Nat) (c : Char) : Bool := (Json.hexValue? c).any (· < base)

/-- The number that digits of a base spell, with underscores between them. -/
def basedNumber? (base : Nat) (digits : List Char) : Option Nat :=
  (plainDigits? (isDigitOf base) digits).bind (numberOf? base)

/-- The digits of a decimal number, which begins with zero only if it is zero. -/
def decimalDigits? (text : List Char) : Option (List Char) :=
  (plainDigits? Char.isDigit text).filter fun digits => digits.length = 1 || digits.head? ≠ some '0'

/-- The sign of a number, and what follows it. -/
def splitSign : List Char → Bool × List Char
  | '-' :: rest => (true, rest)
  | '+' :: rest => (false, rest)
  | rest => (false, rest)

/-- Integers are below this bound, and not below its opposite. -/
def integerBound : Int := 9223372036854775808

/-- The integer of a word, if it fits 64 bits. -/
def integer? (word : List Char) : Option Int :=
  let bounded (value : Int) : Option Int :=
    if -integerBound ≤ value && value < integerBound then some value else none
  match word with
  | '0' :: 'x' :: rest => (basedNumber? 16 rest).bind fun n => bounded n
  | '0' :: 'o' :: rest => (basedNumber? 8 rest).bind fun n => bounded n
  | '0' :: 'b' :: rest => (basedNumber? 2 rest).bind fun n => bounded n
  | _ =>
    let (negative, rest) := splitSign word
    (decimalDigits? rest).bind fun digits =>
      (numberOf? 10 digits).bind fun n => bounded (if negative then -(n : Int) else n)

/-- The number with the given digits, scaled by a power of ten and rounded. -/
def scaledReal (negative : Bool) (digits : Nat) (exponent : Int) : Floating :=
  let size : Int := (Nat.toDigits 10 digits).length
  let magnitude : Floating :=
    if digits = 0 || exponent + size < -400 then .num 0
    else if 400 < exponent + size then .infinite false
    else .ofRat (digits * tenPow exponent)
  if negative then -magnitude else magnitude

/-- The text before and after the first character that satisfies a test. -/
def splitWhere (test : Char → Bool) (text : List Char) : List Char × Option (List Char) :=
  let before := text.takeWhile fun c => !test c
  match text.drop before.length with
  | [] => (before, none)
  | _ :: after => (before, some after)

/-- The exponent of a real number. -/
def exponent? (text : List Char) : Option Int :=
  let (negative, rest) := splitSign text
  ((plainDigits? Char.isDigit rest).bind (numberOf? 10)).map fun n =>
    if negative then -(n : Int) else n

/-- The real number of a word: a decimal number with a fraction, an exponent or both, an infinity,
or not a number.  Too large a positive number is refused. -/
def real? (word : List Char) : Option Floating := do
  let (negative, rest) := splitSign word
  if rest = ['i', 'n', 'f'] then return .infinite negative
  if rest = ['n', 'a', 'n'] then return .nan
  let (mantissa, exponent) := splitWhere (fun c => c = 'e' || c = 'E') rest
  let (whole, fraction) := splitWhere (· = '.') mantissa
  if exponent.isNone && fraction.isNone then none
  let wholeDigits ← decimalDigits? whole
  let fractionDigits ←
    match fraction with
    | none => some []
    | some digits => plainDigits? Char.isDigit digits
  let power ←
    match exponent with
    | none => some 0
    | some digits => exponent? digits
  let digits ← numberOf? 10 (wholeDigits ++ fractionDigits)
  let value := scaledReal negative digits (power - (fractionDigits.length : Int))
  if value = .infinite false then none else return value

/-- The number that exactly `count` digits spell. -/
def fixedNumber? (count : Nat) (text : List Char) : Option Nat :=
  if text.length = count && text.all Char.isDigit then numberOf? 10 text else none

/-- How many days a month has. -/
def daysIn (year month : Nat) : Nat :=
  if month = 2 then
    if year % 4 = 0 && (year % 100 ≠ 0 || year % 400 = 0) then 29 else 28
  else if [4, 6, 9, 11].contains month then 30
  else 31

/-- Whether a text is a date. -/
def isDate (text : List Char) : Bool :=
  match Text.splitAt '-' text with
  | [year, month, day] =>
    match fixedNumber? 4 year, fixedNumber? 2 month, fixedNumber? 2 day with
    | some year, some month, some day =>
      1 ≤ month && month ≤ 12 && 1 ≤ day && day ≤ daysIn year month
    | _, _, _ => false
  | _ => false

/-- Whether a text is an hour and a minute. -/
def isHourMinute (hour minute : List Char) : Bool :=
  (fixedNumber? 2 hour).any (· ≤ 23) && (fixedNumber? 2 minute).any (· ≤ 59)

/-- Whether a text is a time, perhaps with a fraction of a second. -/
def isTime (text : List Char) : Bool :=
  match Text.splitAt ':' text with
  | [hour, minute, second] =>
    let (whole, fraction) := splitWhere (· = '.') second
    isHourMinute hour minute && (fixedNumber? 2 whole).any (· ≤ 60)
      && fraction.all fun digits => !digits.isEmpty && digits.all Char.isDigit
  | _ => false

/-- Whether a text is an offset from universal time. -/
def isOffset (text : List Char) : Bool :=
  match Text.splitAt ':' text with
  | [hour, minute] => isHourMinute hour minute
  | _ => false

/-- Whether a text is a time with an offset, or without one. -/
def isTimeWithOffset (text : List Char) : Bool :=
  match splitWhere (fun c => c = 'Z' || c = 'z') text with
  | (time, some after) => isTime time && after.isEmpty
  | (_, none) =>
    match splitWhere (fun c => c = '+' || c = '-') text with
    | (time, some offset) => isTime time && isOffset offset
    | (time, none) => isTime time

/-- Whether a word is a date, a time, or both with a letter between them. -/
def isMoment (word : List Char) : Bool :=
  isTime word || isDate word
    || isDate (word.take 10)
      && (match word.drop 10 with
          | c :: time => (c = 'T' || c = 't') && isTimeWithOffset time
          | [] => false)

/-- The value of a word. -/
def scalar? (word : List Char) : Option Toml :=
  if word = ['t', 'r', 'u', 'e'] then some (.truth true)
  else if word = ['f', 'a', 'l', 's', 'e'] then some (.truth false)
  else if isMoment word then some .moment
  else
    match integer? word with
    | some value => some (.integer value)
    | none => (real? word).map .real

/-- A number, a truth value or a moment, if one begins here.  A date may be followed by a space and
a time. -/
def readScalar (text : List Char) : Option (Toml × List Char) :=
  let word := text.takeWhile isWordChar
  let rest := text.drop word.length
  match rest with
  | ' ' :: after =>
    if isDate word && after.head?.any Char.isDigit then
      let time := after.takeWhile isWordChar
      if isTimeWithOffset time then some (.moment, after.drop time.length) else none
    else (scalar? word).map fun value => (value, rest)
  | _ => (scalar? word).map fun value => (value, rest)

end Toml
end CodeAudit
