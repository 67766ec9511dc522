import GatedManager.Logging.Verbosity

/-!
# Log lines

A line has a level, a target, which is the part of the program that speaks, and a message.
-/

namespace GatedManager.Logging

/-- Levels from the most to the least urgent. -/
def Level.rank : Level → Nat
  | error => 1
  | warn => 2
  | info => 3
  | debug => 4
  | trace => 5

/-- The name of a level at the head of a line. -/
def Level.label : Level → String
  | error => "ERROR"
  | warn => "WARN"
  | info => "INFO"
  | debug => "DEBUG"
  | trace => "TRACE"

structure Line where
  level : Level
  target : String
  message : String
deriving Repr, DecidableEq

def Line.render (line : Line) : String :=
  line.level.label ++ " " ++ line.target ++ ": " ++ line.message

end GatedManager.Logging
