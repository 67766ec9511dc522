import GatedManager.Net.Ip
import GatedManager.Text.Quoted
import GatedManager.Text.Split

/-!
# Bind addresses

A listener is configured by `host:port`. The empty text and `0` disable it. The port follows the
last colon. The host may be empty, which listens on every address, `localhost`, or an address
literal; brackets around it are dropped.
-/

namespace GatedManager.Net

/-- Why a text is no bind address. -/
inductive BindFault
  | missingPort
  | portNotANumber
  | badHost
deriving Repr, DecidableEq

def BindFault.reason : BindFault → String
  | missingPort => "missing port"
  | portNotANumber => "port is not a number"
  | badHost => "host must be empty, localhost or an IP literal"

/-- The host without the brackets at its two ends. -/
def unbracket (host : List Char) : List Char :=
  ((host.dropWhile (· == '[')).reverse.dropWhile (· == ']')).reverse

def hostAddress? (host : List Char) : Option Ip :=
  if host.isEmpty then some (.v4 ⟨[0, 0, 0, 0], rfl⟩)
  else if host = "localhost".toList then some (.v4 ⟨[127, 0, 0, 1], rfl⟩)
  else Ip.read host

/-- The address a listener binds, `none` when it is disabled. -/
def readBindAddress (text : String) : Except BindFault (Option Socket) :=
  let s := Text.trimChars text.toList
  if s.isEmpty ∨ s = ['0'] then .ok none
  else match Text.splitLast ':' s with
    | none => .error .missingPort
    | some (host, port) =>
      match Text.unsigned? 65536 port with
      | none => .error .portNotANumber
      | some port =>
        match hostAddress? (unbracket host) with
        | none => .error .badHost
        | some ip => .ok (some ⟨ip, UInt16.ofNat port⟩)

end GatedManager.Net
