import CodeAudit.Floating.Basic

/-!
# The fewest digits that read back

`Decimal.shortest f q` is a decimal with as few significant digits as possible that the format
`f` rounds to the number `q` itself, and among those the one nearest to `q`.  On the grid of
decimals with a given number of digits only the two neighbours of `q` are candidates: when any
point of the grid reads back, one of these two does.
-/

namespace CodeAudit

/-- The value `digits * 10 ^ exponent`. -/
structure Decimal where
  digits : Nat
  exponent : Int
  deriving DecidableEq, Repr

/-- The number of decimal digits of a positive number. -/
def decimalLength (n : Nat) : Nat := (Nat.toDigits 10 n).length

/-- The greatest `e` with `10 ^ e ≤ q`, for a positive `q`. -/
def floorLog10 (q : Rat) : Int :=
  let guess := (decimalLength q.num.natAbs : Int) - (decimalLength q.den : Int)
  if tenPow guess ≤ q then guess else guess - 1

namespace Decimal

/-- The rational that a decimal stands for. -/
def toRat (d : Decimal) : Rat := (d.digits : Rat) * tenPow d.exponent

/-- Whether the format rounds the decimal to `q`. -/
def readsBack (f : BinaryFormat) (q : Rat) (d : Decimal) : Bool := f.round d.toRat = .num q

/-- The same value without trailing zeros, for digits below `10 ^ fuel`. -/
def stripZeros : Nat → Decimal → Decimal
  | 0, d => d
  | fuel + 1, d =>
    if d.digits != 0 && d.digits % 10 = 0 then
      stripZeros fuel ⟨d.digits / 10, d.exponent + 1⟩
    else d

/-- The better of the two neighbours of `q` on the grid `10 ^ exponent` that read back. -/
def onGrid? (f : BinaryFormat) (q : Rat) (exponent : Int) : Option Decimal :=
  let below : Decimal := ⟨(q / tenPow exponent).floor.toNat, exponent⟩
  let above : Decimal := ⟨below.digits + 1, exponent⟩
  match below.readsBack f q, above.readsBack f q with
  | true, true =>
    let fromBelow := q - below.toRat
    let fromAbove := above.toRat - q
    if fromBelow < fromAbove || fromBelow = fromAbove && below.digits % 2 = 0 then some below
    else some above
  | true, false => some below
  | false, true => some above
  | false, false => none

/-- The first grid, from `exponent` downwards, on which a neighbour of `q` reads back. -/
def firstGrid (f : BinaryFormat) (q : Rat) : Nat → Int → Decimal
  | 0, exponent => ⟨(q / tenPow exponent).floor.toNat, exponent⟩
  | fuel + 1, exponent =>
    match onGrid? f q exponent with
    | some d => d
    | none => firstGrid f q fuel (exponent - 1)

/-- The fewest digits that read back as the positive number `q`. -/
def shortest (f : BinaryFormat) (q : Rat) : Decimal :=
  let found := firstGrid f q f.precision (floorLog10 q)
  stripZeros (decimalLength found.digits) found

end Decimal

end CodeAudit
