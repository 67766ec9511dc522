import GatedManager.Number.Binary

/-!
# The fewest digits that read back

A binary64 value stands for every real that rounds to it. Of the decimals in that interval the
one with the fewest digits is written, and of two with equally many the one nearer to the value.
-/

namespace GatedManager.Number

/-- The number `digits * 10 ^ exponent`. -/
structure Decimal where
  digits : Nat
  exponent : Int
deriving Repr, DecidableEq

/-- Compare `a * 10 ^ i` with `n * 2 ^ j` exactly. -/
def compareScaled (a : Nat) (i : Int) (n : Nat) (j : Int) : Ordering :=
  compare (a * Nat.pow 10 i.toNat * Nat.pow 2 (-j).toNat)
    (n * Nat.pow 2 j.toNat * Nat.pow 10 (-i).toNat)

/-- Whether a decimal lies among the reals that round to the value: between the midpoints to its
two neighbours, which belong to it when its significand is even. Below a power of two the
neighbour is half as far away. -/
def Binary.readsBack (value : Binary) (d : Decimal) : Bool :=
  let narrow := value.m = Nat.pow 2 52 && value.q > -1074
  let low := compareScaled d.digits d.exponent
    (if narrow then 4 * value.m - 1 else 4 * value.m - 2) (value.q - 2)
  let high := compareScaled d.digits d.exponent (4 * value.m + 2) (value.q - 2)
  let closed := value.m % 2 = 0
  (low == .gt || (closed && low == .eq)) && (high == .lt || (closed && high == .eq))

/-- The least `k` between `start` and `start + steps` with `value < 10 ^ k`. -/
def Binary.scaleFrom (value : Binary) : Nat → Int → Int
  | 0, start => start
  | steps + 1, start =>
    if compareScaled 1 start value.m value.q == .gt then start
    else value.scaleFrom steps (start + 1)

/-- The least `k` with `value < 10 ^ k`, searched from an estimate below it. -/
def Binary.scale (value : Binary) : Int :=
  value.scaleFrom 4 (((value.m.log2 : Int) + value.q) * 1233 / 4096 - 1)

/-- The neighbours of the value on the grid of multiples of `10 ^ exponent`: the one not above
it, and whether the one above is nearer. -/
def Binary.onGrid (value : Binary) (exponent : Int) : Nat × Bool :=
  let num := value.m * Nat.pow 2 value.q.toNat * Nat.pow 10 (-exponent).toNat
  let den := Nat.pow 2 (-value.q).toNat * Nat.pow 10 exponent.toNat
  (num / den, 2 * (num % den) > den)

/-- The decimal on one grid that reads back, if there is one. -/
def Binary.pick? (value : Binary) (exponent : Int) : Option Decimal :=
  let (below, aboveNearer) := value.onGrid exponent
  let lower : Decimal := ⟨below, exponent⟩
  let upper : Decimal := ⟨below + 1, exponent⟩
  let nearer := if aboveNearer then upper else lower
  let farther := if aboveNearer then lower else upper
  if value.readsBack nearer then some nearer
  else if value.readsBack farther then some farther
  else none

/-- Trailing zeros of the digits move into the exponent. -/
def Decimal.strip : Nat → Decimal → Decimal
  | 0, d => d
  | fuel + 1, d =>
    if d.digits ≠ 0 ∧ d.digits % 10 = 0 then Decimal.strip fuel ⟨d.digits / 10, d.exponent + 1⟩
    else d

/-- The fewest digits that read back. Seventeen digits identify every binary64 value. -/
def Binary.shortest (value : Binary) : Decimal :=
  if value.m = 0 then ⟨0, 0⟩
  else
    let scale := value.scale
    match (List.range 17).findSome? fun (n : Nat) => value.pick? (scale - (n + 1)) with
    | some d => d.strip 17
    | none => ⟨(value.onGrid (scale - 17)).1, scale - 17⟩

/-- The text of a finite value as a number that keeps its fraction mark: positional while the
point stays near the digits, with an exponent otherwise. -/
def Decimal.render (d : Decimal) : String :=
  let digits := Nat.toDigits 10 d.digits
  let point : Int := digits.length + d.exponent
  if 0 ≤ d.exponent ∧ point ≤ 16 then
    String.ofList (digits ++ List.replicate d.exponent.toNat '0') ++ ".0"
  else if 0 < point ∧ point ≤ 16 then
    String.ofList (digits.take point.toNat ++ '.' :: digits.drop point.toNat)
  else if -5 < point ∧ point ≤ 0 then
    "0." ++ String.ofList (List.replicate (-point).toNat '0' ++ digits)
  else
    let fraction := digits.drop 1
    let mantissa := digits.take 1 ++ (if fraction.isEmpty then [] else '.' :: fraction)
    let exponent := point - 1
    String.ofList mantissa ++ "e" ++ (if exponent < 0 then "-" else "+") ++
      toString exponent.natAbs

/-- The shortest text of a finite value, with its sign. What is not finite has no number text. -/
def render? (x : Float) : Option String :=
  (Binary.ofFloat? x).map fun value =>
    (if isNegative x then "-" else "") ++ value.shortest.render

end GatedManager.Number
