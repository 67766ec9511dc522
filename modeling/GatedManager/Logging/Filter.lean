import GatedManager.Logging.Line
import GatedManager.Text.Alphanumeric

/-!
# Log filters

A filter is a list of directives, separated by commas, that say up to which level a line is kept.
A directive may be limited to targets that start with a text, to a span and to fields. Of the
directives that apply to a line the one with the longest target counts, then the one with the most
fields, then the one that was written last. A line to which none applies is dropped.

Lines of this program have the one field `message` and are in no span.
-/

namespace GatedManager.Logging

/-- The levels up to a limit, or no level at all. -/
abbrev Threshold := Option Level

def Threshold.allows (threshold : Threshold) (level : Level) : Bool :=
  threshold.any (level.rank ≤ ·.rank)

/-- The thresholds in the order of the numbers that stand for them. -/
def thresholds : List (String × Threshold) :=
  [("off", none), ("error", some .error), ("warn", some .warn), ("info", some .info),
   ("debug", some .debug), ("trace", some .trace)]

/-- A threshold by its number or by its name in letters of either case. Nothing means errors. -/
def threshold? (s : List Char) : Option Threshold :=
  match Text.unsigned? thresholds.length s with
  | some n => thresholds[n]?.map (·.2)
  | none =>
    if s.isEmpty then some (some .error)
    else thresholds.lookup (String.ofList (s.map Char.toLower))

/-- A field that a directive asks for, and the value it must have, if any. -/
structure FieldFilter where
  name : List Char
  value : Option (List Char)
deriving Repr, DecidableEq

structure Directive where
  target : Option (List Char) := none
  span : Option (List Char) := none
  fields : List FieldFilter := []
  threshold : Threshold := some .trace
deriving Repr, DecidableEq

/-! ### Reading directives -/

/-- What the character that is read next belongs to, and where that part begins. -/
inductive Part
  | start
  /-- A target, or a threshold alone. -/
  | name (first : Nat)
  | span (first : Nat)
  | field (first : Nat)
  | afterFields
  | afterSpan
  | threshold (first : Nat)
deriving Repr, DecidableEq

/-- Whether a directive can begin with a character that opens no span. -/
def beginsName (c : Char) : Bool := c = '-' || c = ':' || c = '_' || Text.isAlphanumeric c

/-- The characters of a text from one place up to another. -/
def slice (text : List Char) (first last : Nat) : List Char := (text.take last).drop first

def fieldFilter? (s : List Char) : Option FieldFilter :=
  if s.isEmpty then none
  else match Text.splitOn '=' s with
    | name :: value :: _ => some ⟨name, some value⟩
    | _ => some ⟨s, none⟩

/-- One character `c`, the one at place `i`, of the directive that stands in `text`. -/
def readChar (text : List Char) (part : Part) (d : Directive) (i : Nat) (c : Char) :
    Option (Part × Directive) :=
  match part with
  | .start =>
    if c = '[' then some (.span (i + 1), d)
    else if beginsName c then some (.name i, d)
    else none
  | .name first =>
    if c = '=' then some (.threshold (i + 1), { d with target := some (slice text first i) })
    else if c = '[' then some (.span (i + 1), { d with target := some (slice text first i) })
    else some (part, d)
  | .span first =>
    let name := slice text first i
    if c = ']' then some (.afterSpan, { d with span := some name })
    else if c = '\x7b' then
      some (.field (i + 1), { d with span := if name.isEmpty then none else some name })
    else some (part, d)
  | .field first =>
    if c = '\x7d' then
      (fieldFilter? (slice text first i)).map fun field =>
        (.afterFields, { d with fields := d.fields ++ [field] })
    else some (part, d)
  | .afterFields => if c = ']' then some (.afterSpan, d) else none
  | .afterSpan => if c = '=' then some (.threshold (i + 1), d) else none
  | .threshold _ => some (part, d)

def readChars (text : List Char) (part : Part) (d : Directive) (i : Nat) :
    List Char → Option (Part × Directive)
  | [] => some (part, d)
  | c :: rest =>
    match readChar text part d i c with
    | none => none
    | some (part, d) => readChars text part d (i + 1) rest

/-- The last part of a directive. A name alone is a threshold if it is one, and a target with all
levels otherwise; a threshold that is left out means all levels. -/
def finish (text : List Char) (part : Part) (d : Directive) : Option Directive :=
  match part with
  | .name first =>
    match threshold? (text.drop first) with
    | some threshold => some { d with threshold := threshold }
    | none => some { d with target := some (text.drop first) }
  | .threshold first =>
    if (text.drop first).isEmpty then some d
    else (threshold? (text.drop first)).map fun threshold => { d with threshold := threshold }
  | .afterSpan => some d
  | _ => none

/-- Reads a directive. The parts are found in the text without the blanks around it but cut out of
the whole text, so leading blanks shift them. -/
def Directive.read? (text : List Char) : Option Directive :=
  match readChars text .start {} 0 (Text.trimChars text) with
  | none => none
  | some (part, d) => finish text part d

/-! ### Filters -/

structure Filter where
  directives : List Directive
deriving Repr, DecidableEq

namespace Filter

/-- Reads directives; empty ones do not count. -/
def read? (text : String) : Option Filter :=
  (((Text.splitOn ',' text.toList).filter (!·.isEmpty)).mapM Directive.read?).map Filter.mk

/-- Whether a directive applies to a line. -/
def applies (line : Line) (d : Directive) : Bool :=
  d.span.isNone && d.fields.all (fun field => field.name = "message".toList && field.value.isNone) &&
    d.target.all (·.isPrefixOf line.target.toList)

/-- Whether a directive is as specific as another one that applies to the same line. -/
def asSpecific (d other : Directive) : Bool :=
  let size (d : Directive) : Nat := (d.target.map (·.length + 1)).getD 0
  size other < size d || (size other = size d && other.fields.length ≤ d.fields.length)

/-- The directive that counts for a line. -/
def directive? (f : Filter) (line : Line) : Option Directive :=
  (f.directives.filter (applies line)).foldl
    (fun best d => match best with
      | none => some d
      | some other => if asSpecific d other then some d else some other)
    none

def keeps (f : Filter) (line : Line) : Bool :=
  (f.directive? line).any (·.threshold.allows line.level)

end Filter

/-! ### The filter of a process -/

/-- Why there is no filter. -/
inductive FilterFault
  | entry (fault : EntryFault)
  | badDirective
deriving Repr, DecidableEq

def FilterFault.message : FilterFault → String
  | entry fault => fault.message
  | badDirective => "invalid filter directive"

/-- The filter of a process: the one that replaces all settings, when it is given and can be read,
and else that of the verbosity and the list of modules. -/
def filter (replacement : Option String) (verbosity : Nat) (modules : String) :
    Except FilterFault Filter :=
  match replacement.bind Filter.read? with
  | some f => .ok f
  | none =>
    match directives verbosity modules with
    | .error fault => .error (.entry fault)
    | .ok text =>
      match Filter.read? text with
      | none => .error .badDirective
      | some f => .ok f

end GatedManager.Logging
