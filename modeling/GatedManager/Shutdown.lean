/-!
# The shutdown signal

A signal that fires once and stays fired. Tokens made from it are cancelled when it fires, and can
be cancelled on their own, together with the tokens made from them.
-/

namespace GatedManager

/-- A token: what it was made from, an earlier token or the signal itself, and whether it was
cancelled on its own. -/
structure Token where
  parent : Option Nat
  fired : Bool := false
deriving Repr, DecidableEq

structure Shutdown where
  triggered : Bool := false
  tokens : List Token := []
deriving Repr, DecidableEq

namespace Shutdown

def trigger (s : Shutdown) : Shutdown := { s with triggered := true }

/-- A new token of the signal. -/
def child (s : Shutdown) : Shutdown := { s with tokens := s.tokens ++ [⟨none, false⟩] }

/-- A new token of a token. -/
def childOf (s : Shutdown) (token : Nat) : Shutdown :=
  if token < s.tokens.length then { s with tokens := s.tokens ++ [⟨some token, false⟩] } else s

/-- Cancels a token on its own. -/
def cancel (s : Shutdown) (token : Nat) : Shutdown :=
  { s with tokens := s.tokens.modify token fun t => { t with fired := true } }

/-- Which tokens are cancelled: those that fired and those made from the signal or a token that
is. A token is made from an earlier one. -/
def cancelled (s : Shutdown) : List Bool :=
  s.tokens.foldl
    (fun flags token =>
      let inherited := match token.parent with
        | none => s.triggered
        | some parent => flags.getD parent false
      flags ++ [token.fired || inherited])
    []

end Shutdown

end GatedManager
