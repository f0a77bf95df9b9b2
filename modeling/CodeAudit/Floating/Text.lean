import CodeAudit.Floating.Shortest

/-!
# Number text

Two ways to write a number.  `Floating.shortestText` writes the fewest digits that read back:
positional from `10 ^ -5` up to, not including, `10 ^ 16`, always with a fraction, and otherwise
with a signed exponent.  `Floating.fixedText` writes a fixed number of decimal places of the exact
value, a half going to the even digit, and never an exponent.
-/

namespace CodeAudit

/-- The decimal digits of a number. -/
def digitText (n : Nat) : String := String.ofList (Nat.toDigits 10 n)

namespace Decimal

/-- Digits with a fraction: `digits` times a power of ten, written out in full. -/
def positional (d : Decimal) : String :=
  let text := Nat.toDigits 10 d.digits
  if 0 ≤ d.exponent then
    String.ofList (text ++ List.replicate d.exponent.toNat '0') ++ ".0"
  else
    let places := (-d.exponent).toNat
    let padded := List.replicate (places + 1 - text.length) '0' ++ text
    let whole := padded.length - places
    String.ofList (padded.take whole) ++ "." ++ String.ofList (padded.drop whole)

/-- One digit, the other digits as a fraction if there are any, and a signed exponent. -/
def scientific (d : Decimal) : String :=
  let text := Nat.toDigits 10 d.digits
  let exponent := d.exponent + (text.length - 1 : Nat)
  let fraction := text.drop 1
  String.ofList (text.take 1)
    ++ (if fraction.isEmpty then "" else "." ++ String.ofList fraction)
    ++ (if exponent < 0 then "e-" else "e+") ++ digitText exponent.natAbs

/-- Positional from `10 ^ -5` up to, not including, `10 ^ 16`, and scientific elsewhere. -/
def text (d : Decimal) : String :=
  let point := d.exponent + decimalLength d.digits
  if -5 < point && point ≤ 16 then d.positional else d.scientific

end Decimal

namespace Floating

/-- The shortest text of a finite number that reads back in the given format. -/
def shortestText? (f : BinaryFormat) : Floating → Option String
  | .nan | .infinite _ => none
  | .negativeZero => some "-0.0"
  | .num value =>
    if value = 0 then some "0.0"
    else if value < 0 then some ("-" ++ (Decimal.shortest f (-value)).text)
    else some (Decimal.shortest f value).text

/-- The text of a non-negative rational with `places` decimal places. -/
def placesText (places : Nat) (q : Rat) : String :=
  let scaled := (roundEven (q * tenPow places)).toNat
  let whole := digitText (scaled / Nat.pow 10 places)
  if places = 0 then whole
  else
    let fraction := Nat.toDigits 10 (scaled % Nat.pow 10 places)
    whole ++ "." ++ String.ofList (List.replicate (places - fraction.length) '0' ++ fraction)

/-- A number with `places` decimal places; the sign is kept even when all digits are zero. -/
def fixedText (places : Nat) : Floating → String
  | .nan => "NaN"
  | .infinite negative => if negative then "-inf" else "inf"
  | .negativeZero => "-" ++ placesText places 0
  | .num value =>
    if value < 0 then "-" ++ placesText places (-value) else placesText places value

end Floating

end CodeAudit
