import GatedManager.Text.Numeral
import GatedManager.Text.Split
import GatedManager.Text.Utf8

/-!
# HTTP requests and responses

The part of HTTP that probe and metrics endpoints use: a target is a path and perhaps a query, and
the segments of a path are percent-encoded. Endpoints answer `GET`, and `HEAD` without a body;
other methods are not allowed.
-/

namespace GatedManager.Http

structure Request where
  method : String
  target : String
deriving Repr, DecidableEq

structure Response where
  status : Nat
  contentType : Option String := none
  allow : Option String := none
  body : String := ""
deriving Repr, DecidableEq

namespace Response

/-- A plain text. -/
def text (status : Nat) (body : String) : Response where
  status := status
  contentType := some "text/plain; charset=utf-8"
  body := body

def notFound : Response := { status := 404 }

def methodNotAllowed : Response := { status := 405, allow := some "GET,HEAD" }

def withoutBody (response : Response) : Response := { response with body := "" }

end Response

/-- The answer of an endpoint that can be read. -/
def readOnly (method : String) (response : Response) : Response :=
  if method = "GET" then response
  else if method = "HEAD" then response.withoutBody
  else .methodNotAllowed

/-- Path and query of a target. -/
structure Target where
  path : List Char
  query : Option (List Char)
deriving Repr, DecidableEq

/-- The query follows the first question mark; a fragment is no part of it. -/
def Target.read (s : List Char) : Target :=
  let s := s.takeWhile (· != '#')
  match Text.splitFirst '?' s with
  | none => ⟨s, none⟩
  | some (path, query) => ⟨path, some query⟩

/-- The segments of a path that starts with a slash. -/
def segments (path : List Char) : Option (List (List Char)) :=
  match path with
  | '/' :: rest => some (Text.splitOn '/' rest)
  | _ => none

/-- The value of a character as a hexadecimal digit. -/
def hexByte? (b : UInt8) : Option Nat := Text.digit? 16 (Char.ofNat b.toNat)

/-- The bytes with each percent sign and two hexadecimal digits replaced by the byte they denote.
Any other percent sign stands for itself. -/
def percentDecode : List UInt8 → List UInt8
  | 0x25 :: a :: b :: rest =>
    match hexByte? a, hexByte? b with
    | some high, some low => UInt8.ofNat (16 * high + low) :: percentDecode rest
    | _, _ => 0x25 :: percentDecode (a :: b :: rest)
  | b :: rest => b :: percentDecode rest
  | [] => []

/-- The text of a percent-encoded segment. -/
def decodeSegment? (segment : List Char) : Option String :=
  (Text.utf8Decode? (percentDecode (Text.utf8Encode segment))).map String.ofList

end GatedManager.Http
