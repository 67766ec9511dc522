import GatedManager.Duration.Reader

/-!
# Reading a duration by byte offsets

A text in memory is a run of bytes, in which a character may take up to four. The reader looks for
the next character of a kind, notes its offset in bytes and cuts the text there; a cut inside a
character, or beyond the end, would end the process. Each turn of its loop reads one component and
adds it to the sum.
-/

namespace GatedManager.Duration

/-- How many bytes a text has. -/
def byteLength : List Char → Nat
  | [] => 0
  | c :: s => c.utf8Size + byteLength s

/-- The offset in bytes of the first character that satisfies `p`. -/
def findOffset? (p : Char → Bool) : List Char → Option Nat
  | [] => none
  | c :: s => if p c then some 0 else (findOffset? p s).map (c.utf8Size + ·)

/-- The text before and after an offset in bytes, `none` if that lies inside a character or beyond
the end. -/
def cutAt? : Nat → List Char → Option (List Char × List Char)
  | 0, s => some ([], s)
  | _ + 1, [] => none
  | offset + 1, c :: s =>
    if c.utf8Size ≤ offset + 1 then
      (cutAt? (offset + 1 - c.utf8Size) s).map fun (before, after) => (c :: before, after)
    else none

/-- One turn of the loop: what is left of the text, and the sum so far. It is `none` if a cut is not
possible. -/
def turn (s : List Char) (sum : Float) : Option (Except Fault (List Char × Float)) :=
  match findOffset? (!isNumberChar ·) s with
  | none => some (.error .missingUnit)
  | some 0 => some (.error .invalidNumber)
  | some offset => do
    let (token, s) ← cutAt? offset s
    match number? token with
    | none => some (.error .invalidNumber)
    | some number =>
      let (unit, s) ← cutAt? ((findOffset? isNumberChar s).getD (byteLength s)) s
      match Scale.ofToken? unit with
      | none => some (.error (.unknownUnit unit))
      | some scale => some (.ok (s, sum + number * scale.nanos))

/-- At most `turns` turns of the loop. It is `none` if a cut is not possible or if the turns do not
bring the loop to its end. -/
def loop : Nat → List Char → Float → Option (Except Fault Float)
  | _, [], sum => some (.ok sum)
  | 0, _ :: _, _ => none
  | turns + 1, c :: s, sum =>
    match turn (c :: s) sum with
    | none => none
    | some (.error fault) => some (.error fault)
    | some (.ok (s, sum)) => loop turns s sum

/-- Reads a duration by byte offsets, in at most as many turns as it has characters. -/
def readByOffsets (input : String) : Option (Except Fault Duration) :=
  let s := Text.trimChars input.toList
  if s = ['0'] then some (.ok zero)
  else if s.isEmpty then some (.error .empty)
  else
    (loop s.length s 0.0).map fun result => result.bind fun nanos =>
      match ofSeconds? (nanos / 1e9) with
      | none => .error .tooBig
      | some d => .ok d

end GatedManager.Duration
