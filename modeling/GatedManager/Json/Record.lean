import GatedManager.Json

/-!
# Records in JSON

A record is read from an object by the names of its fields, or from an array by their positions.
Names that are not fields are ignored; an array may stop early but has no further items. A field
is *required*, *defaulted* (it may be absent but not null) or *optional* (absent and null mean
the same).
-/

namespace GatedManager.Json

/-- The values of the fields `names` in that order, `none` for an absent one. -/
def recordFields? (names : List String) : Json → Option (List (Option Json))
  | obj members => some (names.map (member? · members))
  | arr items =>
    if items.length ≤ names.length then
      some (items.map some ++ List.replicate (names.length - items.length) none)
    else none
  | _ => none

/-- The values of the fields `names` of an object, in that order. -/
def objectFields? (names : List String) : Json → Option (List (Option Json))
  | obj members => some (names.map (member? · members))
  | _ => none

section Field

variable {α : Type}

def required (read? : Json → Option α) (field : Option Json) : Option α := field.bind read?

def defaulted (default : α) (read? : Json → Option α) : Option Json → Option α
  | none => some default
  | some j => read? j

def optional (read? : Json → Option α) : Option Json → Option (Option α)
  | none => some none
  | some null => some none
  | some j => (read? j).map some

end Field

def str? : Json → Option String
  | str s => some s
  | _ => none

def bool? : Json → Option Bool
  | bool b => some b
  | _ => none

def any? (j : Json) : Option Json := some j

/-- A whole number from `low` to `high`. -/
def intIn? (low high : Int) : Json → Option Int
  | int n => if low ≤ n ∧ n ≤ high then some n else none
  | _ => none

def int32Max : Int := 2147483647

def int32? : Json → Option Int := intIn? (-2147483648) int32Max

def int64? : Json → Option Int := intIn? (-9223372036854775808) 9223372036854775807

def list? {α : Type} (read? : Json → Option α) : Json → Option (List α)
  | arr items => items.mapM read?
  | _ => none

/-- An object all of whose members are strings. -/
def texts? : Json → Option (List (String × String))
  | obj members => members.mapM fun (name, j) => (str? j).map (name, ·)
  | _ => none

def ofTexts (texts : List (String × String)) : Json :=
  obj (texts.map fun (name, text) => (name, str text))

end GatedManager.Json
