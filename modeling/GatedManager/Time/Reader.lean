import GatedManager.Time
import GatedManager.Text.Blank
import GatedManager.Text.Numeral

/-!
# Reading timestamps

A loose form of RFC 3339: date, one of `T`, `t` and a blank, time, offset. Blanks may precede each
number and each separator, a year may have a sign and then any number of digits, and the fields
may be short of digits. The offset is `Z`, `z`, `UTC` in any case, or a sign, two digits of hours,
colons or blanks, and two digits of minutes; it is less than a day. Decimals beyond the ninth are
dropped, and second 60 is a leap second.
-/

namespace GatedManager.Timestamp

open Text (isBlank trimLeft)

/-- The leading digits of a text, at least one and at most `width` of them. -/
def digits? (width : Nat) (s : List Char) : Option (Nat × List Char) :=
  let token := (s.take width).takeWhile Char.isDigit
  (Text.natural? 10 token).map (·, s.drop token.length)

/-- A number of at most `width` digits after blanks. -/
def field? (width : Nat) (s : List Char) : Option (Nat × List Char) := digits? width (trimLeft s)

/-- What follows the separator `c`, blanks before it being skipped. -/
def separator? (c : Char) (s : List Char) : Option (List Char) :=
  match trimLeft s with
  | d :: rest => if d = c then some rest else none
  | [] => none

/-- A year of at most four digits, or of any number of them after a sign. -/
def year? (s : List Char) : Option (Int × List Char) :=
  match trimLeft s with
  | '-' :: rest => (digits? rest.length rest).map fun (n, rest) => (-(n : Int), rest)
  | '+' :: rest => (digits? rest.length rest).map fun (n, rest) => ((n : Int), rest)
  | s => (digits? 4 s).map fun (n, rest) => ((n : Int), rest)

/-- The nanoseconds of a fraction with the given digits, those beyond the ninth being dropped. -/
def fractionNanos (digits : List Char) : Option Nat :=
  let kept := digits.take 9
  (Text.natural? 10 kept).map (· * Nat.pow 10 (9 - kept.length))

/-- The fraction of a second, when there is a point. -/
def fraction? (s : List Char) : Option (Nat × List Char) :=
  match s with
  | '.' :: rest =>
    (fractionNanos (rest.takeWhile Char.isDigit)).map (·, rest.dropWhile Char.isDigit)
  | _ => some (0, s)

/-- Two digits with a value below `limit`. -/
def pair? (limit : Nat) : List Char → Option (Nat × List Char)
  | a :: b :: rest => ((Text.natural? 10 [a, b]).filter (· < limit)).map (·, rest)
  | _ => none

/-- Hours and minutes of an offset, in seconds. -/
def offsetAmount? (s : List Char) : Option (Int × List Char) := do
  let (hours, s) ← pair? 100 s
  let (minutes, s) ← pair? 60 (s.dropWhile fun c => c == ':' || isBlank c)
  return ((hours * 3600 + minutes * 60 : Nat), s)

/-- The offset east of UTC in seconds. -/
def offset? (s : List Char) : Option (Int × List Char) :=
  if (s.take 3).map Char.toUpper = ['U', 'T', 'C'] then some (0, s.drop 3)
  else match s with
    | c :: rest =>
      if c = 'Z' ∨ c = 'z' then some (0, rest)
      else if c = '+' then offsetAmount? rest
      else if c = '-' ∨ c = '\u2212' then
        (offsetAmount? rest).map fun (amount, rest) => (-amount, rest)
      else none
    | [] => none

/-- Years that a timestamp can have. -/
def yearInRange (year : Int) : Bool := -262143 ≤ year && year ≤ 262142

/-- The date at the start of a text. -/
def date? (s : List Char) : Option (CivilDate × List Char) := do
  let (year, s) ← year? s
  let (month, s) ← field? 2 (← separator? '-' s)
  let (day, s) ← field? 2 (← separator? '-' s)
  let date : CivilDate := ⟨year, month, day⟩
  if date.isValid && yearInRange year then some (date, s) else none

/-- Seconds of the day and nanoseconds of the time at the start of a text. -/
def time? (s : List Char) : Option ((Nat × Nat) × List Char) := do
  let (hour, s) ← field? 2 s
  let (minute, s) ← field? 2 (← separator? ':' s)
  let (second, s) ← field? 2 (← separator? ':' s)
  let (nanos, s) ← fraction? s
  if hour < 24 ∧ minute < 60 ∧ second ≤ 60 then
    if second = 60 then
      some ((hour * 3600 + minute * 60 + 59, Duration.nanosPerSecond + nanos), s)
    else some ((hour * 3600 + minute * 60 + second, nanos), s)
  else none

def readChars? (s : List Char) : Option Timestamp := do
  let (date, s) ← date? s
  let s ← match s with
    | c :: rest => if c = 'T' ∨ c = 't' ∨ c = ' ' then some rest else none
    | [] => none
  let ((second, nanos), s) ← time? s
  let (offset, s) ← offset? (trimLeft s)
  let seconds := date.toDays * secondsPerDay + second - offset
  if (trimLeft s).isEmpty ∧ offset.natAbs < 86400 ∧
      yearInRange (CivilDate.ofDays (seconds / secondsPerDay)).year then
    some ⟨seconds, nanos⟩
  else none

/-- The timestamp that a text denotes. -/
def read? (text : String) : Option Timestamp := readChars? text.toList

end GatedManager.Timestamp
