import GatedManager.Number.Binary

/-!
# Durations

A duration is a whole number of nanoseconds. Its text names the largest unit whose whole part is
not zero, with as many decimals as it needs: `137s`, `1.5s`, `250ms`, `100µs`.
-/

namespace GatedManager

/-- A length of time in nanoseconds. -/
structure Duration where
  nanos : Nat
deriving Repr, DecidableEq, Inhabited

namespace Duration

def nanosPerSecond : Nat := 1000000000

def zero : Duration := ⟨0⟩

def ofSeconds (s : Nat) : Duration := ⟨s * nanosPerSecond⟩

def ofMillis (ms : Nat) : Duration := ⟨ms * 1000000⟩

/-- Whole seconds. -/
def seconds (d : Duration) : Nat := d.nanos / nanosPerSecond

/-- Nanoseconds beyond the whole seconds. -/
def subsecNanos (d : Duration) : Nat := d.nanos % nanosPerSecond

/-- Whole seconds are counted in 64 bits. -/
def secondsLimit : Nat := Nat.pow 2 64

/-- The duration in seconds as a binary64 value: whole seconds and the fraction, each rounded. -/
def toSeconds (d : Duration) : Float :=
  Float.ofNat d.seconds + Float.ofNat d.subsecNanos / 1e9

/-- The duration nearest to a number of seconds, a tie going to the even nanosecond; `none` when
the number is not finite or needs more than 64 bits of whole seconds. -/
def ofSeconds? (x : Float) : Option Duration :=
  match Number.Binary.ofFloat? x with
  | none => none
  | some value =>
    let nanos := value.roundScaled nanosPerSecond
    if nanos / nanosPerSecond < secondsLimit then some ⟨nanos⟩ else none

/-- The decimal digits of `n`, padded on the left with zeros to `width`. -/
def padded (width n : Nat) : List Char :=
  let digits := Nat.toDigits 10 n
  List.replicate (width - digits.length) '0' ++ digits

/-- `whole` and, unless it is zero, a fraction of `width` places without its trailing zeros. -/
def decimal (whole fraction width : Nat) : String :=
  let places := ((padded width fraction).reverse.dropWhile (· == '0')).reverse
  String.ofList (Nat.toDigits 10 whole ++ if places.isEmpty then [] else '.' :: places)

/-- The text of a duration. -/
def render (d : Duration) : String :=
  if d.nanos ≥ nanosPerSecond then decimal d.seconds d.subsecNanos 9 ++ "s"
  else if d.nanos ≥ 1000000 then decimal (d.nanos / 1000000) (d.nanos % 1000000) 6 ++ "ms"
  else if d.nanos ≥ 1000 then decimal (d.nanos / 1000) (d.nanos % 1000) 3 ++ "µs"
  else decimal d.nanos 0 0 ++ "ns"

end Duration

end GatedManager
