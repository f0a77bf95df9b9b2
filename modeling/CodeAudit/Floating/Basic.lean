/-!
# Floating-point numbers

Scores and estimates are numbers of a binary format.  A finite number is held as the rational
that it stands for, so an operation is the exact rational operation followed by one rounding:
to the nearest number of the format, an exact tie going to the even significand.

The formats are described by `BinaryFormat`; `BinaryFormat.round` is the only place where
precision is lost.  Arithmetic on `Floating` is that of `BinaryFormat.double`.
-/

namespace CodeAudit

/-- The power `2 ^ e` as a rational. -/
def twoPow (e : Int) : Rat :=
  if 0 ≤ e then ((Nat.pow 2 e.toNat : Nat) : Rat) else 1 / ((Nat.pow 2 (-e).toNat : Nat) : Rat)

/-- The power `10 ^ e` as a rational. -/
def tenPow (e : Int) : Rat :=
  if 0 ≤ e then ((Nat.pow 10 e.toNat : Nat) : Rat) else 1 / ((Nat.pow 10 (-e).toNat : Nat) : Rat)

/-- The greatest `e` with `2 ^ e ≤ q`, for a positive `q`. -/
def floorLog2 (q : Rat) : Int :=
  let guess := (Nat.log2 q.num.natAbs : Int) - (Nat.log2 q.den : Int)
  if twoPow guess ≤ q then guess else guess - 1

/-- The nearest integer, a half going to the even neighbour. -/
def roundEven (q : Rat) : Int :=
  let below := q.floor
  let rest := q - below
  if rest < 1 / 2 then below
  else if 1 / 2 < rest then below + 1
  else if below % 2 = 0 then below
  else below + 1

/-- The nearest integer, a half going away from zero. -/
def roundAway (q : Rat) : Int :=
  if q < 0 then -((-q + 1 / 2).floor) else (q + 1 / 2).floor

/-- A number of a binary format: not a number, an infinity, or a rational whose zero is signed. -/
inductive Floating where
  | nan
  | infinite (negative : Bool)
  | negativeZero
  | num (value : Rat)
  deriving DecidableEq, Inhabited

/-- The digits of a significand and the exponents that a binary format admits. -/
structure BinaryFormat where
  /-- How many binary digits a significand has. -/
  precision : Nat
  /-- Every number is a multiple of `2 ^ leastExponent`. -/
  leastExponent : Int
  /-- Magnitudes from `2 ^ overflowExponent` on are infinite. -/
  overflowExponent : Int

namespace BinaryFormat

/-- The 64-bit format. -/
def double : BinaryFormat := ⟨53, -1074, 1024⟩

/-- The 32-bit format. -/
def single : BinaryFormat := ⟨24, -149, 128⟩

/-- The distance between the numbers of the format around `q`. -/
def unit (f : BinaryFormat) (q : Rat) : Rat :=
  twoPow (max (floorLog2 q.abs - (f.precision - 1)) f.leastExponent)

/-- The number of the format nearest to `q`. -/
def round (f : BinaryFormat) (q : Rat) : Floating :=
  let unit := f.unit q
  let value := (roundEven (q / unit) : Rat) * unit
  if value = 0 then (if q < 0 then .negativeZero else .num 0)
  else if twoPow f.overflowExponent ≤ value.abs then .infinite (q < 0)
  else .num value

end BinaryFormat

namespace Floating

/-- The number nearest to a rational. -/
def ofRat (q : Rat) : Floating := BinaryFormat.double.round q

/-- The number nearest to a count. -/
def ofNat (n : Nat) : Floating := ofRat (n : Rat)

instance (n : Nat) : OfNat Floating n := ⟨ofNat n⟩

/-- The rational that a finite number stands for. -/
def value? : Floating → Option Rat
  | .num value => some value
  | .negativeZero => some 0
  | .nan | .infinite _ => none

/-- Neither an infinity nor not a number. -/
def isFinite (x : Floating) : Bool := x.value?.isSome

/-- The sign bit. -/
def isNegative : Floating → Bool
  | .nan => false
  | .infinite negative => negative
  | .negativeZero => true
  | .num value => value < 0

/-- A zero with a sign. -/
def zero (negative : Bool) : Floating :=
  if negative then .negativeZero else .num 0

/-- The number with the opposite sign. -/
def neg : Floating → Floating
  | .nan => .nan
  | .infinite negative => .infinite (!negative)
  | .negativeZero => .num 0
  | .num value => if value = 0 then .negativeZero else .num (-value)

/-- The rounded sum; only two negative zeros give a negative zero. -/
def add : Floating → Floating → Floating
  | .nan, _ | _, .nan => .nan
  | .infinite a, .infinite b => if a = b then .infinite a else .nan
  | .infinite a, _ => .infinite a
  | _, .infinite b => .infinite b
  | .negativeZero, .negativeZero => .negativeZero
  | .negativeZero, .num b => .num b
  | .num a, .negativeZero => .num a
  | .num a, .num b => ofRat (a + b)

/-- The rounded difference. -/
def sub (x y : Floating) : Floating := add x (neg y)

/-- The rounded product; the sign is the product of the signs. -/
def mul (x y : Floating) : Floating :=
  let negative := x.isNegative != y.isNegative
  match x, y with
  | .nan, _ | _, .nan => .nan
  | .infinite _, .infinite _ => .infinite negative
  | .infinite _, other | other, .infinite _ =>
    if other.value? = some 0 then .nan else .infinite negative
  | _, _ =>
    let product := x.value?.getD 0 * y.value?.getD 0
    if product = 0 then zero negative else ofRat product

/-- The rounded quotient; the sign is the product of the signs. -/
def div (x y : Floating) : Floating :=
  let negative := x.isNegative != y.isNegative
  match x, y with
  | .nan, _ | _, .nan => .nan
  | .infinite _, .infinite _ => .nan
  | .infinite _, _ => .infinite negative
  | _, .infinite _ => zero negative
  | _, _ =>
    let dividend := x.value?.getD 0
    let divisor := y.value?.getD 0
    if divisor = 0 then (if dividend = 0 then .nan else .infinite negative)
    else if dividend = 0 then zero negative
    else ofRat (dividend / divisor)

instance : Add Floating := ⟨add⟩
instance : Sub Floating := ⟨sub⟩
instance : Mul Floating := ⟨mul⟩
instance : Div Floating := ⟨div⟩
instance : Neg Floating := ⟨neg⟩

/-- Strictly below; false as soon as one side is not a number. -/
def less : Floating → Floating → Bool
  | .nan, _ | _, .nan => false
  | .infinite a, .infinite b => a && !b
  | .infinite a, _ => a
  | _, .infinite b => !b
  | x, y => x.value?.getD 0 < y.value?.getD 0

/-- At least; false as soon as one side is not a number. -/
def atLeast : Floating → Floating → Bool
  | .nan, _ | _, .nan => false
  | x, y => !less x y

/-- The greater of two numbers; a number wins over not a number. -/
def maximum (x y : Floating) : Floating :=
  match x, y with
  | .nan, other | other, .nan => other
  | _, _ => if less x y then y else x

/-- The smaller of two numbers; a number wins over not a number. -/
def minimum (x y : Floating) : Floating :=
  match x, y with
  | .nan, other | other, .nan => other
  | _, _ => if less y x then y else x

/-- The nearest point of the interval from `low` to `high`. -/
def clamp (low high x : Floating) : Floating :=
  if less x low then low else if less high x then high else x

/-- The nearest integer, a half going away from zero. -/
def roundInteger : Floating → Floating
  | .num value =>
    let rounded : Rat := roundAway value
    if rounded = 0 then zero (value < 0) else .num rounded
  | x => x

/-- The nearest multiple of a tenth, computed by scaling, rounding and scaling back. -/
def roundTenth (x : Floating) : Floating := (x * 10).roundInteger / 10

/-- Where a number stands in the total order: first by kind, then by value, then by sign. -/
def orderKey : Floating → Int × Rat × Nat
  | .infinite true => (-1, 0, 0)
  | .num value => (0, value, 1)
  | .negativeZero => (0, 0, 0)
  | .infinite false => (1, 0, 0)
  | .nan => (2, 0, 0)

/-- The total order: infinities outermost, a negative zero before zero, not a number last. -/
def before (x y : Floating) : Bool :=
  let (kindX, valueX, signX) := x.orderKey
  let (kindY, valueY, signY) := y.orderKey
  kindX < kindY || kindX == kindY && (valueX < valueY || valueX == valueY && signX < signY)

end Floating

end CodeAudit
