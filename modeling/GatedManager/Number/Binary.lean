/-!
# Binary64 values as exact numbers

A finite binary64 value is `m * 2 ^ q` up to its sign. Decoding it makes exact arithmetic
possible: rounding to a grid, comparing with a decimal, choosing the fewest digits.
-/

namespace GatedManager.Number

/-- A finite non-negative binary64 value, `m * 2 ^ q`. -/
structure Binary where
  m : Nat
  q : Int
deriving Repr, DecidableEq

/-- The value without its sign; `none` for the infinities and for what is not a number. -/
def Binary.ofFloat? (x : Float) : Option Binary :=
  let bits := x.toBits
  let exponent := ((bits >>> 52) &&& 0x7FF).toNat
  let fraction := (bits &&& 0xFFFFFFFFFFFFF).toNat
  if exponent = 0x7FF then none
  else if exponent = 0 then some ⟨fraction, -1074⟩
  else some ⟨Nat.pow 2 52 + fraction, (exponent : Int) - 1075⟩

/-- Whether the sign bit is set, also on zero. -/
def isNegative (x : Float) : Bool := x.toBits >>> 63 == 1

/-- `num / den` rounded to the nearest integer, a tie to the even one. -/
def roundDiv (num den : Nat) : Nat :=
  let quotient := num / den
  let rest := num % den
  if 2 * rest < den then quotient
  else if 2 * rest > den then quotient + 1
  else if quotient % 2 = 0 then quotient else quotient + 1

/-- `value * scale` rounded to the nearest integer, a tie to the even one. -/
def Binary.roundScaled (value : Binary) (scale : Nat) : Nat :=
  if 0 ≤ value.q then value.m * scale * Nat.pow 2 value.q.toNat
  else roundDiv (value.m * scale) (Nat.pow 2 (-value.q).toNat)

end GatedManager.Number
