import GatedManager.CommandLine.Parser

/-!
# Usage texts

What a process says that refuses its command line, or was asked about itself.
-/

namespace GatedManager.CommandLine

/-- The name of the program. -/
def programName : String := "machine-api-migration"

def programVersion : String := "0.1.0"

/-- The flags, one on a line. -/
def usage : String :=
  "Usage: " ++ programName ++ " [OPTIONS]\n\nOptions:\n" ++
    String.join (Flag.all.map fun flag => "  " ++ flag.usage ++ "\n")

/-- What a refusal tells the user. -/
def Refusal.message : Refusal → String
  | help => usage
  | version => programName ++ " " ++ programVersion
  | unknown argument => "error: unexpected argument " ++ Text.quoted argument
  | noValue flag => "error: a value is required for " ++ flag.usage
  | badValue flag value fault =>
    "error: invalid value " ++ Text.quoted value ++ " for " ++ flag.usage ++
      ((fault.reason?.map (": " ++ ·)).getD "")
  | repeated flag => "error: " ++ flag.usage ++ " cannot be given more than once"
  | needlessValue flag value => "error: unexpected value " ++ Text.quoted value ++ " for " ++ flag

end GatedManager.CommandLine
