-- Numbers of double precision: a mantissa below 2^53 times a power of two. A
-- decimal number is rounded to the nearest of them, and halfway to the one
-- with an even mantissa.

namespace Verdict.Decimal

/-- The integer nearest to a quotient; halfway, the even one. -/
def roundDiv (n d : Nat) : Nat :=
  let quotient := n / d
  let twice := 2 * (n % d)
  if twice < d || (twice = d && quotient % 2 = 0) then quotient else quotient + 1

/-- Powers of two and of ten. -/
def twoTo (n : Nat) : Nat := Nat.pow 2 n

def tenTo (n : Nat) : Nat := Nat.pow 10 n

/-- A magnitude of double precision. The mantissa is at least 2^52 unless the
exponent is the least, -1074. -/
structure Binary64 where
  mantissa : Nat
  exponent : Int
  deriving DecidableEq, Repr

namespace Binary64

def zero : Binary64 := ⟨0, -1074⟩

/-- The largest exponent with `2^exponent * d ≤ n`, for `n` and `d` that are not
zero. -/
def log2Quotient (n d : Nat) : Int :=
  let e : Int := (n.log2 : Int) - (d.log2 : Int)
  if d * twoTo e.toNat ≤ n * twoTo (-e).toNat then e else e - 1

/-- The number nearest to a quotient. There is none if the quotient is too
large. -/
def nearest (n d : Nat) : Option Binary64 :=
  if n = 0 then some zero
  else
    let exponent := max (log2Quotient n d - 52) (-1074)
    let mantissa := roundDiv (n * twoTo (-exponent).toNat) (d * twoTo exponent.toNat)
    let rounded : Binary64 :=
      if mantissa = twoTo 53 then ⟨twoTo 52, exponent + 1⟩ else ⟨mantissa, exponent⟩
    if rounded.exponent ≤ 971 then some rounded else none

/-- The number nearest to `n` times a power of ten. Powers far outside the range
are settled by the number of digits. -/
def ofDecimal (n : Nat) (scale : Int) : Option Binary64 :=
  let magnitude := ((Nat.toDigits 10 n).length : Int) + scale
  if n = 0 || magnitude < -330 then some zero
  else if 310 < magnitude then none
  else nearest (n * tenTo scale.toNat) (tenTo (-scale).toNat)

end Binary64

end Verdict.Decimal
