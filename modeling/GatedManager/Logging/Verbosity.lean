import GatedManager.Text.Blank
import GatedManager.Text.Numeral
import GatedManager.Text.Quoted
import GatedManager.Text.Split

/-!
# Verbosity

Verbosity is a number; levels are named. A base level and a list of modules with their own
verbosity become the directives of a log filter: the level, then one directive for each module.
-/

namespace GatedManager.Logging

inductive Level
  | error
  | warn
  | info
  | debug
  | trace
deriving Repr, DecidableEq

def Level.name : Level → String
  | error => "error"
  | warn => "warn"
  | info => "info"
  | debug => "debug"
  | trace => "trace"

/-- The level of a verbosity. -/
def levelFor (verbosity : Nat) : Level :=
  if verbosity = 0 then .info else if verbosity ≤ 4 then .debug else .trace

/-- Verbosities are numbers of eight bits. -/
def verbosityLimit : Nat := 256

/-- What is wrong with an entry of the list of modules. -/
inductive EntryFault
  | noLevel (entry : String)
  | badLevel (entry : String)
deriving Repr, DecidableEq

def EntryFault.message : EntryFault → String
  | noLevel entry => "invalid vmodule entry " ++ Text.quoted entry
  | badLevel entry => "invalid vmodule level in " ++ Text.quoted entry

/-- The entries of a list of modules, trimmed; empty ones do not count. -/
def entries (modules : List Char) : List (List Char) :=
  ((Text.splitOn ',' modules).map Text.trimChars).filter (!·.isEmpty)

/-- The directive of an entry: the module before its first equals sign, with underscores for
hyphens, and the level of the verbosity after it. -/
def entryDirective (entry : List Char) : Except EntryFault String :=
  match Text.splitFirst '=' entry with
  | none => .error (.noLevel (String.ofList entry))
  | some (target, level) =>
    match Text.unsigned? verbosityLimit level with
    | none => .error (.badLevel (String.ofList entry))
    | some verbosity =>
      let target := target.map fun c => if c = '-' then '_' else c
      .ok (String.ofList target ++ "=" ++ (levelFor verbosity).name)

/-- The directives for a verbosity and a list of modules, the first bad entry being an error. -/
def directives (verbosity : Nat) (modules : String) : Except EntryFault String := do
  let modules ← (entries modules.toList).mapM entryDirective
  return ",".intercalate ((levelFor verbosity).name :: modules)

end GatedManager.Logging
