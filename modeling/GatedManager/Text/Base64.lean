/-!
# Base64

Base64 with padding writes three bytes as four characters. A text is in its one written form when
it consists of whole groups, padding stands only at the end, and the bits that padding leaves over
are zero.
-/

namespace GatedManager.Text

/-- The six bits of a character. -/
def sextet? (c : Char) : Option Nat :=
  if 'A' ≤ c ∧ c ≤ 'Z' then some (c.toNat - 'A'.toNat)
  else if 'a' ≤ c ∧ c ≤ 'z' then some (c.toNat - 'a'.toNat + 26)
  else if '0' ≤ c ∧ c ≤ '9' then some (c.toNat - '0'.toNat + 52)
  else if c = '+' then some 62
  else if c = '/' then some 63
  else none

def isSextet (c : Char) : Bool := (sextet? c).isSome

/-- Whether a text is the Base64 form of some bytes. -/
def isBase64 : List Char → Bool
  | [] => true
  | [a, b, '=', '='] => isSextet a && (sextet? b).any (· % 16 == 0)
  | [a, b, c, '='] => isSextet a && isSextet b && (sextet? c).any (· % 4 == 0)
  | a :: b :: c :: d :: rest =>
    isSextet a && isSextet b && isSextet c && isSextet d && isBase64 rest
  | _ => false

end GatedManager.Text
