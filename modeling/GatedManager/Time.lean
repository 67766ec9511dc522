import GatedManager.Duration
import GatedManager.Time.Calendar

/-!
# Points in time

A timestamp counts seconds from the start of 1970 (UTC) and nanoseconds beyond them. During a leap
second the seconds stand still and the nanoseconds run on from one second to two, so that the text
shows second 60. Texts are RFC 3339 in UTC; a year outside 0 to 9999 has a sign.
-/

namespace GatedManager

structure Timestamp where
  seconds : Int
  nanos : Nat
deriving Repr, DecidableEq, Inhabited

namespace Timestamp

def secondsPerDay : Int := 86400

/-- How many decimals of the second a text has. -/
inductive Precision
  /-- None. -/
  | seconds
  /-- Exactly six, what lies beyond being cut off. -/
  | micros
  /-- The fewest of none, three, six and nine that lose nothing. -/
  | exact
deriving Repr, DecidableEq

/-- The timestamp without the part below a microsecond. -/
def truncateMicros (t : Timestamp) : Timestamp := ⟨t.seconds, t.nanos / 1000 * 1000⟩

def twoDigits (n : Nat) : List Char := Duration.padded 2 n

def renderYear (year : Int) : List Char :=
  if 0 ≤ year ∧ year ≤ 9999 then Duration.padded 4 year.toNat
  else (if year < 0 then '-' else '+') :: Duration.padded 4 year.natAbs

/-- The decimals of a second, with their point. -/
def renderFraction (precision : Precision) (nanos : Nat) : List Char :=
  match precision with
  | .seconds => []
  | .micros => '.' :: Duration.padded 6 (nanos / 1000)
  | .exact =>
    if nanos = 0 then []
    else if nanos % 1000000 = 0 then '.' :: Duration.padded 3 (nanos / 1000000)
    else if nanos % 1000 = 0 then '.' :: Duration.padded 6 (nanos / 1000)
    else '.' :: Duration.padded 9 nanos

def renderChars (precision : Precision) (t : Timestamp) : List Char :=
  let date := CivilDate.ofDays (t.seconds / secondsPerDay)
  let second := (t.seconds % secondsPerDay).toNat
  let leap := t.nanos / Duration.nanosPerSecond
  renderYear date.year ++ '-' :: twoDigits date.month ++ '-' :: twoDigits date.day ++
    'T' :: twoDigits (second / 3600) ++ ':' :: twoDigits (second / 60 % 60) ++
    ':' :: twoDigits (second % 60 + leap) ++
    renderFraction precision (t.nanos % Duration.nanosPerSecond) ++ ['Z']

def render (precision : Precision) (t : Timestamp) : String :=
  String.ofList (renderChars precision t)

end Timestamp

end GatedManager
