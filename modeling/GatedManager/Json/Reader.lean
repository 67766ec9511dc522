import GatedManager.Json
import GatedManager.Text.Numeral

/-!
# Reading JSON texts

A text is one value between blanks. Objects come out with their members sorted by name, the last
of several members of one name being kept. Values nest at most `depthLimit` deep. Strings hold no
bare control characters, and an escaped surrogate must be half of a pair.

A whole number that fits 64 bits is kept exactly. Any other number is its significand, the digits
that fit 64 bits, scaled by powers of ten in binary64.
-/

namespace GatedManager.Json

/-- How deep values nest. -/
def depthLimit : Nat := 128

def isSpace (c : Char) : Bool := c == ' ' || c == '\n' || c == '\r' || c == '\t'

def skipSpace (s : List Char) : List Char := s.dropWhile isSpace

/-- Put a member in its place by name, replacing one of the same name. -/
def insertMember (name : String) (value : Json) : List (String × Json) → List (String × Json)
  | [] => [(name, value)]
  | (n, v) :: rest =>
    if name = n then (name, value) :: rest
    else if name < n then (name, value) :: (n, v) :: rest
    else (n, v) :: insertMember name value rest

/-- The four hexadecimal digits of an escape. -/
def unit? (s : List Char) : Option (Nat × List Char) :=
  match s with
  | a :: b :: c :: d :: rest => (Text.natural? 16 [a, b, c, d]).map (·, rest)
  | _ => none

/-- The character of an escape that starts after `\u`, a pair of surrogates making one. -/
def unicodeEscape? (s : List Char) : Option (Char × List Char) := do
  let (high, rest) ← unit? s
  if 0xD800 ≤ high ∧ high < 0xDC00 then
    match rest with
    | '\\' :: 'u' :: rest =>
      let (low, rest) ← unit? rest
      if 0xDC00 ≤ low ∧ low < 0xE000 then
        return (Char.ofNat (0x10000 + (high - 0xD800) * 0x400 + (low - 0xDC00)), rest)
      else none
    | _ => none
  else if 0xDC00 ≤ high ∧ high < 0xE000 then none
  else return (Char.ofNat high, rest)

/-- The rest of a string after its opening quote, with what follows the closing one. -/
def readString : Nat → List Char → List Char → Option (String × List Char)
  | 0, _, _ => none
  | fuel + 1, read, s =>
    match s with
    | [] => none
    | '"' :: rest => some (String.ofList read.reverse, rest)
    | '\\' :: 'u' :: rest => do
      let (c, rest) ← unicodeEscape? rest
      readString fuel (c :: read) rest
    | '\\' :: c :: rest =>
      let c? :=
        if c = '"' ∨ c = '\\' ∨ c = '/' then some c
        else if c = 'b' then some '\x08'
        else if c = 'f' then some '\x0c'
        else if c = 'n' then some '\n'
        else if c = 'r' then some '\r'
        else if c = 't' then some '\t'
        else none
      match c? with
      | some c => readString fuel (c :: read) rest
      | none => none
    | c :: rest => if c.toNat < 0x20 then none else readString fuel (c :: read) rest

/-- The digits at the start of a text. -/
def spanDigits (s : List Char) : List Char × List Char :=
  (s.takeWhile Char.isDigit, s.dropWhile Char.isDigit)

/-- Append digits to a significand while it fits 64 bits. The second component counts the digits
that no longer did. -/
def significand : Nat → List Char → Nat × Nat
  | n, [] => (n, 0)
  | n, c :: rest =>
    let next := 10 * n + (c.toNat - '0'.toNat)
    if next < Nat.pow 2 64 then significand next rest else (n, rest.length + 1)

/-- `n * 10 ^ exponent` in binary64, scaled in steps of at most 308 powers of ten; `none` when it
overflows. -/
def scaled : Nat → Float → Int → Option Float
  | 0, x, _ => some x
  | fuel + 1, x, exponent =>
    if exponent.natAbs ≤ 308 then
      let power := Float.ofScientific 1 false exponent.natAbs
      if exponent < 0 then some (x / power)
      else
        let y := x * power
        if y.isInf then none else some y
    else if x == 0.0 then some x
    else if exponent > 0 then none
    else scaled fuel (x / 1e308) (exponent + 308)

/-- The binary64 number with the given digits before and after the point. -/
def decimal? (negative : Bool) (whole fraction : List Char) (exponent : Int) : Option Float :=
  let (n, dropped) := significand 0 whole
  let (n, kept) :=
    if dropped > 0 then (n, 0)
    else
      let (m, lost) := significand n fraction
      (m, fraction.length - lost)
  let exponent := exponent + dropped - kept
  (scaled (exponent.natAbs / 308 + 2) (Float.ofNat n) exponent).map fun x =>
    if negative then -x else x

/-- The exponent part of a number: none, or a mark, an optional sign and digits. -/
def readExponent (s : List Char) : Option (Option Int × List Char) :=
  match s with
  | c :: rest =>
    if c = 'e' ∨ c = 'E' then
      let (negative, rest) := match rest with
        | '-' :: r => (true, r)
        | '+' :: r => (false, r)
        | r => (false, r)
      let (digits, rest) := spanDigits rest
      (Text.natural? 10 digits).map fun n => (some (if negative then -(n : Int) else n), rest)
    else some (none, s)
  | [] => some (none, s)

/-- A number at the start of a text. -/
def readNumber (s : List Char) : Option (Json × List Char) := do
  let (negative, s) := match s with
    | '-' :: rest => (true, rest)
    | _ => (false, s)
  let (whole, s) := spanDigits s
  if whole.isEmpty ∨ (whole.length > 1 ∧ whole.head? = some '0') then none
  else
    let (fraction, s) ← match s with
      | '.' :: rest =>
        let (fraction, rest) := spanDigits rest
        if fraction.isEmpty then none else some (fraction, rest)
      | _ => some ([], s)
    let (exponent?, s) ← readExponent s
    let n := Text.digitsValue 10 (whole.filterMap (Text.digit? 10))
    if fraction.isEmpty ∧ exponent? = none ∧ !negative ∧ n < Nat.pow 2 64 then
      return (int n, s)
    else if fraction.isEmpty ∧ exponent? = none ∧ negative ∧ 0 < n ∧ n ≤ Nat.pow 2 63 then
      return (int (-n), s)
    else
      let x ← decimal? negative whole fraction (exponent?.getD 0)
      return (float x, s)

/-- The rest of a word after its first letter. -/
def word? (letters : List Char) (value : Json) (s : List Char) : Option (Json × List Char) :=
  if letters.isPrefixOf s then some (value, s.drop letters.length) else none

mutual

/-- A value at the start of a text and what follows it. -/
def readValue (depth : Nat) : Nat → List Char → Option (Json × List Char)
  | 0, _ => none
  | fuel + 1, s =>
    match skipSpace s with
    | '[' :: rest =>
      if depth = 0 then none
      else match skipSpace rest with
        | ']' :: rest => some (arr [], rest)
        | rest => readItems (depth - 1) fuel [] rest
    | '\x7b' :: rest =>
      if depth = 0 then none
      else match skipSpace rest with
        | '\x7d' :: rest => some (obj [], rest)
        | rest => readMembers (depth - 1) fuel [] rest
    | '"' :: rest => (readString (rest.length + 1) [] rest).map fun (text, rest) => (str text, rest)
    | 'n' :: rest => word? "ull".toList null rest
    | 't' :: rest => word? "rue".toList (bool true) rest
    | 'f' :: rest => word? "alse".toList (bool false) rest
    | s => readNumber s

/-- The items of an array after those already read, up to its closing bracket. -/
def readItems (depth : Nat) : Nat → List Json → List Char → Option (Json × List Char)
  | 0, _, _ => none
  | fuel + 1, read, s =>
    match readValue depth fuel s with
    | none => none
    | some (item, rest) =>
      match skipSpace rest with
      | ',' :: rest => readItems depth fuel (item :: read) rest
      | ']' :: rest => some (arr (item :: read).reverse, rest)
      | _ => none

/-- The members of an object after those already read, up to its closing brace. -/
def readMembers (depth : Nat) :
    Nat → List (String × Json) → List Char → Option (Json × List Char)
  | 0, _, _ => none
  | fuel + 1, read, s =>
    match skipSpace s with
    | '"' :: rest =>
      match readString (rest.length + 1) [] rest with
      | none => none
      | some (name, rest) =>
        match skipSpace rest with
        | ':' :: rest =>
          match readValue depth fuel rest with
          | none => none
          | some (value, rest) =>
            match skipSpace rest with
            | ',' :: rest => readMembers depth fuel (insertMember name value read) rest
            | '\x7d' :: rest => some (obj (insertMember name value read), rest)
            | _ => none
        | _ => none
    | _ => none

end

/-- The value that a whole text denotes. -/
def read? (text : String) : Option Json :=
  let s := text.toList
  match readValue depthLimit (s.length + 2) s with
  | some (value, rest) => if (skipSpace rest).isEmpty then some value else none
  | none => none

end GatedManager.Json
