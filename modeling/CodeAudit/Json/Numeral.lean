import CodeAudit.Floating.Basic

/-!
# Numerals

A numeral is the written form of a JSON number.  Its value is an integer when it has neither a
fraction nor an exponent and fits 64 bits; otherwise its digits are collected into a significand of
64 bits, digits that no longer fit being left out, and the significand is scaled by a power of ten.
Both steps round: the significand to a double, then the scaled double.
-/

namespace CodeAudit
namespace Json

/-- The written form of a number: sign, integer digits, fraction digits and exponent. -/
structure Numeral where
  negative : Bool
  whole : List Nat
  fraction : Option (List Nat)
  /-- Whether the exponent is negative, and its digits. -/
  exponent : Option (Bool × List Nat)
  deriving DecidableEq

/-- What a numeral stands for. -/
inductive NumeralValue where
  | integer (value : Int)
  | real (value : Floating)
  /-- The magnitude has no double; `unread` digits of the exponent did not matter. -/
  | outOfRange (unread : Nat)
  deriving DecidableEq

namespace Numeral

/-- The greatest significand. -/
def greatestSignificand : Nat := 18446744073709551615

/-- The greatest exponent that is still counted. -/
def greatestExponent : Nat := 2147483647

/-- The magnitude of the least integer. -/
def leastInteger : Nat := 9223372036854775808

/-- The digits of the integer part: the significand, and how many digits were left out. -/
def absorbWhole (significand : Nat) : List Nat → Nat × Nat
  | [] => (significand, 0)
  | d :: rest =>
    let next := significand * 10 + d
    if greatestSignificand < next then (significand, rest.length + 1) else absorbWhole next rest

/-- The digits of the fraction: the significand, and how many digits it took. -/
def absorbFraction (significand : Nat) : List Nat → Nat × Nat
  | [] => (significand, 0)
  | d :: rest =>
    let next := significand * 10 + d
    if greatestSignificand < next then (significand, 0)
    else
      let (found, used) := absorbFraction next rest
      (found, used + 1)

/-- The digits of the exponent, or how many are unread when it grows too large. -/
def absorbExponent (exponent : Nat) : List Nat → Except Nat Nat
  | [] => .ok exponent
  | d :: rest =>
    let next := exponent * 10 + d
    if greatestExponent < next then .error rest.length else absorbExponent next rest

/-- A number divided by a power of ten, in steps of `10 ^ 308`; a zero needs no further step. -/
def scaleDown : (fuel : Nat) → Floating → Nat → Floating
  | 0, x, _ => x
  | fuel + 1, x, power =>
    if power ≤ 308 then x / .ofRat (tenPow power)
    else if x.value? = some 0 then x
    else scaleDown fuel (x / .ofRat (tenPow 308)) (power - 308)

/-- The significand times a power of ten, if it has a double. -/
def scaled? (significand : Nat) (power : Int) : Option Floating :=
  let x := Floating.ofNat significand
  if 0 ≤ power then
    if power ≤ 308 then
      let product := x * .ofRat (tenPow power)
      if product.isFinite then some product else none
    else if significand = 0 then some x
    else none
  else some (scaleDown 4 x power.natAbs)

/-- The number with the sign of the numeral. -/
def signed (n : Numeral) (x : Floating) : Floating := if n.negative then -x else x

/-- The real number that a numeral with a fraction, an exponent or too many digits stands for. -/
def real (n : Numeral) : NumeralValue :=
  let (significand, left) := absorbWhole 0 n.whole
  let (significand, used) := absorbFraction significand (n.fraction.getD [])
  let base : Int := (left : Int) - (used : Int)
  let scale (power : Int) : NumeralValue :=
    match scaled? significand power with
    | some x => .real (n.signed x)
    | none => .outOfRange 0
  match n.exponent with
  | none => scale base
  | some (down, digits) =>
    match absorbExponent 0 digits with
    | .ok exponent => scale (if down then base - exponent else base + exponent)
    | .error unread =>
      if significand ≠ 0 && !down then .outOfRange unread else .real (n.signed (.num 0))

/-- The value of a numeral. -/
def value (n : Numeral) : NumeralValue :=
  if n.fraction.isSome || n.exponent.isSome then n.real
  else
    match absorbWhole 0 n.whole with
    | (magnitude, 0) =>
      if !n.negative then .integer magnitude
      else if magnitude = 0 || leastInteger < magnitude then .real (-(Floating.ofNat magnitude))
      else .integer (-(magnitude : Int))
    | _ => n.real

end Numeral

end Json
end CodeAudit
