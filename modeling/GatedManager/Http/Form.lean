import GatedManager.Text.Quoted
import GatedManager.Text.Utf8

/-!
# Form encoding

Parameters of a query are written in the form encoding: a blank becomes a plus sign, letters,
digits and four marks stand for themselves, and every other byte is a percent sign with two
hexadecimal digits in upper case.
-/

namespace GatedManager.Http

/-- Whether a character stands for itself. -/
def isPlain (c : Char) : Bool := c.isAlphanum || "*-._".toList.contains c

/-- The percent form of a byte. -/
def percentByte (b : UInt8) : List Char :=
  let digits := (Text.hex b.toNat).map Char.toUpper
  '%' :: (List.replicate (2 - digits.length) '0' ++ digits)

def formChar (c : Char) : List Char :=
  if c = ' ' then ['+']
  else if isPlain c then [c]
  else (Text.utf8Encode [c]).flatMap percentByte

/-- A value in the form encoding. -/
def formEncode (value : String) : String := String.ofList (value.toList.flatMap formChar)

end GatedManager.Http
