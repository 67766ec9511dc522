/-!
# UTF-8

Decoding bytes into characters. A character has exactly one encoding: the shortest, and none for
surrogates or for numbers beyond the last code point.
-/

namespace GatedManager.Text

/-- The payload of a continuation byte. -/
def continuation? (b : UInt8) : Option Nat :=
  if 0x80 ≤ b ∧ b < 0xC0 then some (b.toNat - 0x80) else none

/-- The payload of `count` continuation bytes after what was read, and what follows them. -/
def continuations? : Nat → Nat → List UInt8 → Option (Nat × List UInt8)
  | 0, read, bytes => some (read, bytes)
  | _ + 1, _, [] => none
  | count + 1, read, b :: bytes =>
    (continuation? b).bind fun payload => continuations? count (read * 64 + payload) bytes

/-- How many bytes follow a leading one, its payload, and the least number so encoded. -/
def leading? (b : UInt8) : Option (Nat × Nat × Nat) :=
  if b < 0x80 then some (0, b.toNat, 0)
  else if 0xC0 ≤ b ∧ b < 0xE0 then some (1, b.toNat - 0xC0, 0x80)
  else if 0xE0 ≤ b ∧ b < 0xF0 then some (2, b.toNat - 0xE0, 0x800)
  else if 0xF0 ≤ b ∧ b < 0xF8 then some (3, b.toNat - 0xF0, 0x10000)
  else none

/-- The character at the start of some bytes, and what follows it. -/
def decodeChar? : List UInt8 → Option (Char × List UInt8)
  | [] => none
  | b :: bytes => do
    let (count, payload, least) ← leading? b
    let (n, rest) ← continuations? count payload bytes
    if h : least ≤ n ∧ n.isValidChar then some (Char.ofNatAux n h.2, rest) else none

/-- The characters of a text of at most `fuel` of them. -/
def decodeChars? : Nat → List UInt8 → Option (List Char)
  | _, [] => some []
  | 0, _ :: _ => none
  | fuel + 1, b :: bytes => do
    let (c, rest) ← decodeChar? (b :: bytes)
    return c :: (← decodeChars? fuel rest)

/-- The characters of some bytes. A character has at least one. -/
def utf8Decode? (bytes : List UInt8) : Option (List Char) := decodeChars? bytes.length bytes

def utf8Encode (s : List Char) : List UInt8 := s.flatMap String.utf8EncodeChar

end GatedManager.Text
