import GatedManager.Text.Blank

/-!
# Identities

A replica is known by the name of its host and a random identifier. The name is the first of the
pod's name, the host's name in the environment and the kernel's that is not blank.
-/

namespace GatedManager.Election

/-- The variables that may name the host, in order. -/
def hostVariables : List String := ["POD_NAME", "HOSTNAME"]

/-- The name of the host. -/
def hostName (env : String → Option String) (kernelName : Option String) : String :=
  let names := (hostVariables.filterMap env ++ kernelName.toList).map Text.trim
  (names.find? (· ≠ "")).getD "localhost"

/-- A random identifier of version 4 made from random bytes. -/
structure Uuid where
  bytes : List UInt8
  length_bytes : bytes.length = 16

namespace Uuid

/-- The bytes with the version and the variant set, as far as there are such bytes. -/
def mark (bytes : List UInt8) : List UInt8 :=
  (bytes.modify 6 fun b => b &&& 0x0F ||| 0x40).modify 8 fun b => b &&& 0x3F ||| 0x80

def ofRandom? (bytes : List UInt8) : Option Uuid :=
  if h : (mark bytes).length = 16 then some ⟨mark bytes, h⟩ else none

def hexByte (b : UInt8) : List Char :=
  [Nat.digitChar (b.toNat / 16), Nat.digitChar (b.toNat % 16)]

/-- Five groups of hexadecimal digits. -/
def render (id : Uuid) : String :=
  let part (start count : Nat) := ((id.bytes.drop start).take count).flatMap hexByte
  String.ofList (List.intercalate ['-'] [part 0 4, part 4 2, part 6 2, part 8 2, part 10 6])

end Uuid

def identity (host : String) (id : Uuid) : String := host ++ "_" ++ id.render

end GatedManager.Election
