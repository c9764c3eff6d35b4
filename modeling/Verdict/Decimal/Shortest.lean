-- The shortest decimal text of a number of double precision: the fewest digits
-- that read back as the number, and of those the nearest to it. No exponent is
-- written, and there is always a decimal point.
import Verdict.Decimal.Binary64

namespace Verdict.Decimal

/-- A decimal number: digits times a power of ten. -/
structure Scaled where
  digits : Nat
  scale : Int
  deriving DecidableEq, Repr

namespace Binary64

/-- All numbers and the decimal grids between them are multiples of one part in
`2 ^ 1076 * 10 ^ 400`. -/
def parts : Nat := twoTo 1076 * tenTo 400

/-- A quarter of the gap to the next number, in parts. -/
def quarter (x : Binary64) : Nat := twoTo (x.exponent + 1074).toNat * tenTo 400

/-- The number, in parts. -/
def size (x : Binary64) : Nat := 4 * x.mantissa * x.quarter

/-- The least and the greatest decimal, in parts, that are nearest to the
number. Below a power of two the gap is half as wide. -/
def bounds (x : Binary64) : Nat × Nat :=
  (x.size - (if x.mantissa = twoTo 52 then 1 else 2) * x.quarter, x.size + 2 * x.quarter)

/-- A decimal, in parts, reads back as the number: it lies between the bounds,
or on one of them if the mantissa is even. -/
def reads (x : Binary64) (decimal : Nat) : Bool :=
  let (low, high) := x.bounds
  if x.mantissa % 2 = 0 then low ≤ decimal && decimal ≤ high
  else low < decimal && decimal < high

/-- The decimal on the grid of the given step that reads back as the number: the
nearer one if both neighbours do. -/
def onGrid? (x : Binary64) (step : Nat) : Option Nat :=
  let down := x.size / step
  let up := down + 1
  match x.reads (down * step), x.reads (up * step) with
  | true, true => some (if 2 * (x.size % step) < step then down else up)
  | true, false => some down
  | false, true => some up
  | false, false => none

/-- The power of ten that is just above the number. -/
def magnitude (x : Binary64) : Int :=
  ((Nat.toDigits 10 (x.size / twoTo 1076)).length : Int) - 400

/-- The shortest decimal with at least as many digits as are tried already. -/
def shortestFrom (x : Binary64) : Nat → Nat → Scaled
  | tried, 0 => ⟨x.size / parts, tried⟩
  | tried, left + 1 =>
    let scale := x.magnitude - (tried + 1)
    match x.onGrid? (twoTo 1076 * tenTo (scale + 400).toNat) with
    | some digits => if digits % 10 = 0 then ⟨digits / 10, scale + 1⟩ else ⟨digits, scale⟩
    | none => shortestFrom x (tried + 1) left

/-- The shortest decimal that reads back as the number. Seventeen digits always
do. -/
def shortest (x : Binary64) : Scaled :=
  if x.mantissa = 0 then ⟨0, 0⟩ else shortestFrom x 0 17

end Binary64

/-- A decimal number without an exponent and with a decimal point. -/
def Scaled.positional (x : Scaled) : String :=
  let digits := Nat.toDigits 10 x.digits
  match x.scale with
  | .ofNat zeros => String.ofList (digits ++ List.replicate zeros '0') ++ ".0"
  | .negSucc n =>
    let places := n + 1
    let padded := List.replicate (places + 1 - digits.length) '0' ++ digits
    let whole := padded.length - places
    String.ofList (padded.take whole) ++ "." ++ String.ofList (padded.drop whole)

end Verdict.Decimal
