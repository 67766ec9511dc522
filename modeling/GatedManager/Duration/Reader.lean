import GatedManager.Duration
import GatedManager.Text.Quoted

/-!
# Reading durations

A duration is written as `0` or as a sequence of components, each a decimal number and a unit:
`2m17s`, `1.5h`, `250ms`. Blanks may surround the whole. The number token is the longest run of
digits and points; the unit runs up to the next of those. The components are added up as binary64
nanoseconds in order, and the sum is rounded to whole nanoseconds once, at the end.
-/

namespace GatedManager.Duration

/-- The units a component may have. -/
inductive Scale
  | nanosecond
  | microsecond
  | millisecond
  | second
  | minute
  | hour
deriving Repr, DecidableEq

namespace Scale

/-- Nanoseconds in one unit. -/
def nanos : Scale → Float
  | nanosecond => 1.0
  | microsecond => 1e3
  | millisecond => 1e6
  | second => 1e9
  | minute => 60e9
  | hour => 3600e9

/-- The unit a token names. The sign for *micro* may be the letter u, the micro sign U+00B5 or the
Greek letter U+03BC. -/
def ofToken? (token : List Char) : Option Scale :=
  if token = ['n', 's'] then some nanosecond
  else if token = ['u', 's'] ∨ token = ['\u00b5', 's'] ∨ token = ['\u03bc', 's'] then
    some microsecond
  else if token = ['m', 's'] then some millisecond
  else if token = ['s'] then some second
  else if token = ['m'] then some minute
  else if token = ['h'] then some hour
  else none

end Scale

/-- Why a text is no duration. -/
inductive Fault
  | empty
  | missingUnit
  | invalidNumber
  | unknownUnit (token : List Char)
  | tooBig
deriving Repr, DecidableEq

namespace Fault

/-- The message for a fault in `input`, which is quoted as it was given. -/
def message (input : String) : Fault → String
  | empty => "empty duration"
  | missingUnit => "missing unit in duration " ++ Text.quoted input
  | invalidNumber => "invalid duration " ++ Text.quoted input
  | unknownUnit token =>
    "unknown unit " ++ Text.quoted (String.ofList token) ++ " in duration " ++ Text.quoted input
  | tooBig =>
    "invalid duration " ++ Text.quoted input ++
      ": cannot convert float seconds to Duration: value is either too big or NaN"

end Fault

/-- A number and its unit. -/
structure Component where
  number : Float
  scale : Scale
deriving Repr

/-- Whether a character belongs to a number token. -/
def isNumberChar (c : Char) : Bool := c.isDigit || c == '.'

/-- The natural number that a run of digits denotes, other characters being skipped. -/
def digitsValue (token : List Char) : Nat :=
  token.foldl (fun n c => if c.isDigit then 10 * n + (c.toNat - '0'.toNat) else n) 0

/-- A number has at least one digit and at most one point. Its value is the nearest binary64
value, a tie going to the even one. -/
def number? (token : List Char) : Option Float :=
  if token.any Char.isDigit ∧ token.count '.' ≤ 1 then
    some (Float.ofScientific (digitsValue token) true
      ((token.dropWhile (· != '.')).drop 1).length)
  else none

/-- The first component of a text and what follows it. A text without any unit character has no
unit; after that come the number, then the unit. -/
def component (s : List Char) : Except Fault (Component × List Char) :=
  let token := s.takeWhile isNumberChar
  let rest := s.dropWhile isNumberChar
  if rest.isEmpty then .error .missingUnit
  else match number? token with
    | none => .error .invalidNumber
    | some number =>
      let unit := rest.takeWhile (!isNumberChar ·)
      match Scale.ofToken? unit with
      | none => .error (.unknownUnit unit)
      | some scale => .ok (⟨number, scale⟩, rest.dropWhile (!isNumberChar ·))

/-- What `dropWhile` leaves is no longer than the list. -/
theorem length_dropWhile_le (p : Char → Bool) (s : List Char) :
    (s.dropWhile p).length ≤ s.length := by
  induction s with
  | nil => simp
  | cons c s ih =>
    rw [List.dropWhile_cons]
    split
    · exact Nat.le_succ_of_le ih
    · exact Nat.le_refl _

/-- A component takes at least one character. -/
theorem length_lt_of_component {s rest : List Char} {c : Component}
    (h : component s = .ok (c, rest)) : rest.length < s.length := by
  simp only [component] at h
  split at h
  · simp at h
  · rename_i hne
    split at h
    · simp at h
    · split at h
      · simp at h
      · simp only [Except.ok.injEq, Prod.mk.injEq] at h
        obtain ⟨-, rfl⟩ := h
        cases hr : s.dropWhile isNumberChar with
        | nil => simp [hr] at hne
        | cons c r =>
          have hc : isNumberChar c = false := by
            have := List.head_dropWhile_not isNumberChar (l := s) (by simp [hr])
            simpa [hr] using this
          have h1 : (s.dropWhile isNumberChar).length ≤ s.length := length_dropWhile_le _ _
          have h2 : (r.dropWhile (!isNumberChar ·)).length ≤ r.length := length_dropWhile_le _ _
          rw [hr] at h1
          simp only [List.dropWhile_cons, hc, Bool.not_false, if_true, List.length_cons] at h1 ⊢
          omega

/-- All components of a text, or the fault of the first one that does not fit. -/
def components (s : List Char) : Except Fault (List Component) :=
  if s.isEmpty then .ok []
  else match _h : component s with
    | .error fault => .error fault
    | .ok (first, rest) =>
      match components rest with
      | .error fault => .error fault
      | .ok others => .ok (first :: others)
termination_by s.length
decreasing_by exact length_lt_of_component _h

/-- The sum of the components in nanoseconds, added in order. -/
def total (cs : List Component) : Float :=
  cs.foldl (fun sum c => sum + c.number * c.scale.nanos) 0.0

/-- Reads a duration, trimmed at both ends. -/
def read (input : String) : Except Fault Duration :=
  let s := Text.trimChars input.toList
  if s = ['0'] then .ok zero
  else if s.isEmpty then .error .empty
  else match components s with
    | .error fault => .error fault
    | .ok cs =>
      match ofSeconds? (total cs / 1e9) with
      | none => .error .tooBig
      | some d => .ok d

end GatedManager.Duration
