import GatedManager.CommandLine.Settings
import GatedManager.Text.Split

/-!
# Reading a command line

Arguments are read in order. A long flag may carry its value after an equals sign, a short one
directly; any other option takes the next argument that is not a flag. Its value is looked at when
the next known flag comes, or at the end, so the fault of an unknown argument in between is
reported first. After `--` nothing but plain arguments follow, and there are none.

A flag may be given once. The release version may also come from the environment.
-/

namespace GatedManager.CommandLine

/-- Why the settings were not read. -/
inductive Refusal
  | help
  | version
  | unknown (argument : String)
  | noValue (flag : Flag)
  | badValue (flag : Flag) (value : String) (fault : ValueFault)
  | repeated (flag : Flag)
  /-- A flag that takes no value has one. -/
  | needlessValue (flag value : String)
deriving Repr, DecidableEq

/-- How far the arguments have been read. -/
structure Reading where
  settings : Settings := {}
  given : List Flag := []
  /-- The last option, with its value once that was seen. -/
  pending : Option (Flag × Option String) := none
deriving Repr

namespace Reading

/-- Gives a flag its value. -/
def give (r : Reading) (flag : Flag) (value : Option String) : Except Refusal Reading :=
  match value.or flag.missingValue? with
  | none => .error (.noValue flag)
  | some value =>
    if r.given.contains flag then .error (.repeated flag)
    else match r.settings.set flag value with
      | .error fault => .error (.badValue flag value fault)
      | .ok settings => .ok { r with settings := settings, given := flag :: r.given }

/-- Gives the last option its value. -/
def settle (r : Reading) : Except Refusal Reading :=
  match r.pending with
  | none => .ok r
  | some (flag, value) => { r with pending := none }.give flag value

/-- A known flag, with the value that is attached to it. -/
def known (r : Reading) (flag : Flag) (attached : Option String) : Except Refusal Reading := do
  let r ← r.settle
  if attached.isSome || flag.isSwitch then r.give flag attached
  else return { r with pending := some (flag, none) }

/-- A request for one of the two texts about the program. -/
def ask {α : Type} (r : Reading) (request : Refusal) : Except Refusal α :=
  match r.settle with
  | .error refusal => .error refusal
  | .ok _ => .error request

/-- Two hyphens, a name and perhaps an equals sign with a value. -/
def long (r : Reading) (body : List Char) : Except Refusal Reading :=
  let name := String.ofList (body.takeWhile (· != '='))
  let attached := (Text.splitFirst '=' body).map fun (_, value) => String.ofList value
  match Flag.ofLong? name with
  | some flag => r.known flag attached
  | none =>
    let request? := if name = "help" then some Refusal.help
      else if name = "version" then some .version
      else none
    match request?, attached with
    | none, _ => .error (.unknown ("--" ++ name))
    | some request, none => r.ask request
    | some _, some value => .error (.needlessValue ("--" ++ name) value)

/-- One hyphen and letters. The letters after one that takes a value are that value, an equals
sign in front being dropped. -/
def short (r : Reading) (letter : Char) (rest : List Char) : Except Refusal Reading :=
  match Flag.ofShort? letter with
  | some flag =>
    match rest with
    | [] => r.known flag none
    | '=' :: value => r.known flag (some (String.ofList value))
    | value => r.known flag (some (String.ofList value))
  | none =>
    if letter = 'h' then r.ask .help
    else if letter = 'V' then r.ask .version
    else .error (.unknown (String.ofList ['-', letter]))

/-- An argument that is no flag: the value of the last option, if that lacks one. -/
def plain (r : Reading) (argument : String) : Except Refusal Reading :=
  match r.pending with
  | some (flag, none) => .ok { r with pending := some (flag, some argument) }
  | _ => .error (.unknown argument)

def argument (r : Reading) (argument : String) : Except Refusal Reading :=
  match argument.toList with
  | '-' :: '-' :: body => r.long body
  | '-' :: letter :: rest => r.short letter rest
  | _ => r.plain argument

/-- Reads all arguments, and gives the last option its value. -/
def arguments (r : Reading) : List String → Except Refusal Reading
  | [] => r.settle
  | arg :: rest =>
    if arg = "--" then
      match rest with
      | [] => r.settle
      | extra :: _ => .error (.unknown extra)
    else
      match r.argument arg with
      | .error refusal => .error refusal
      | .ok r => r.arguments rest

end Reading

/-- The settings that the arguments give. `release` is the release version of the environment,
which holds unless the flag is given. -/
def parse (release : Option String) (args : List String) : Except Refusal Settings := do
  let r ← ({} : Reading).arguments args
  match release with
  | some version =>
    if r.given.contains .releaseVersion then return r.settings
    else return { r.settings with releaseVersion := version }
  | none => return r.settings

/-- The exit code of a process that refuses its command line. -/
def Refusal.exitCode : Refusal → UInt8
  | help => 0
  | version => 0
  | _ => 2

end GatedManager.CommandLine
