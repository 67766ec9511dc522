/-!
# Numerals

The numerals that flags and addresses hold: digits in some base, the decimal form with an optional
plus sign whose value must stay below a limit, and the decimal form with either sign.
-/

namespace GatedManager.Text

/-- The value of a digit in a base up to sixteen, letters in either case. -/
def digit? (base : Nat) (c : Char) : Option Nat :=
  let value? :=
    if '0' ≤ c ∧ c ≤ '9' then some (c.toNat - '0'.toNat)
    else if 'a' ≤ c ∧ c ≤ 'f' then some (c.toNat - 'a'.toNat + 10)
    else if 'A' ≤ c ∧ c ≤ 'F' then some (c.toNat - 'A'.toNat + 10)
    else none
  value?.filter (· < base)

/-- The value of a run of digits, the first one leading. -/
def digitsValue (base : Nat) (digits : List Nat) : Nat :=
  digits.foldl (fun n d => base * n + d) 0

/-- The value of a text that consists of digits only, at least one. -/
def natural? (base : Nat) (s : List Char) : Option Nat :=
  if s.isEmpty then none else (s.mapM (digit? base)).map (digitsValue base)

/-- A decimal numeral below `limit`, which a plus sign may precede. -/
def unsigned? (limit : Nat) (s : List Char) : Option Nat :=
  let digits := match s with
    | '+' :: rest => rest
    | _ => s
  (natural? 10 digits).filter (· < limit)

/-- Why a text is no signed numeral. -/
inductive NumeralFault
  | empty
  | badDigit
  | tooLarge
  | tooSmall
deriving Repr, DecidableEq

def NumeralFault.reason : NumeralFault → String
  | empty => "cannot parse integer from empty string"
  | badDigit => "invalid digit found in string"
  | tooLarge => "number too large to fit in target type"
  | tooSmall => "number too small to fit in target type"

/-- Reads digits on top of the number read so far, up to the first one that is no digit or takes
the number beyond `limit`. -/
def readDigits (limit : Nat) (beyond : NumeralFault) (n : Nat) :
    List Char → Except NumeralFault Nat
  | [] => .ok n
  | c :: rest =>
    match digit? 10 c with
    | none => .error .badDigit
    | some d =>
      if 10 * n + d ≤ limit then readDigits limit beyond (10 * n + d) rest else .error beyond

/-- A decimal numeral with an optional sign, whose value has `bits` bits and a sign. -/
def readSigned (bits : Nat) (s : List Char) : Except NumeralFault Int :=
  match s with
  | [] => .error .empty
  | ['+'] => .error .badDigit
  | ['-'] => .error .badDigit
  | '-' :: digits => (readDigits (Nat.pow 2 bits) .tooSmall 0 digits).map fun n => -(n : Int)
  | '+' :: digits => (readDigits (Nat.pow 2 bits - 1) .tooLarge 0 digits).map fun n => (n : Int)
  | digits => (readDigits (Nat.pow 2 bits - 1) .tooLarge 0 digits).map fun n => (n : Int)

end GatedManager.Text
