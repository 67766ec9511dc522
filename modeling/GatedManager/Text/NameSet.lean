import GatedManager.Text.Quoted

/-!
# Sets of names

A set of names is kept as a list in ascending order without repetitions, so that equal sets are
equal lists.
-/

namespace GatedManager.Text

/-- A set of names, in ascending order. -/
structure NameSet where
  toList : List String
deriving Repr, DecidableEq, Inhabited

namespace NameSet

def empty : NameSet := ⟨[]⟩

def insertSorted (name : String) : List String → List String
  | [] => [name]
  | first :: rest =>
    if name = first then first :: rest
    else if name < first then name :: first :: rest
    else first :: insertSorted name rest

def insert (set : NameSet) (name : String) : NameSet := ⟨insertSorted name set.toList⟩

def ofList (names : List String) : NameSet := names.foldl insert empty

def contains (set : NameSet) (name : String) : Bool := set.toList.contains name

/-- The names of either set. -/
def union (s t : NameSet) : NameSet := t.toList.foldl insert s

/-- The names of `s` that are not in `t`. -/
def diff (s t : NameSet) : NameSet := ⟨s.toList.filter (!t.contains ·)⟩

/-- The names in quotes between braces. -/
def render (set : NameSet) : String :=
  "\x7b" ++ ", ".intercalate (set.toList.map Text.quoted) ++ "\x7d"

/-- The names in quotes between brackets. -/
def renderList (set : NameSet) : String :=
  "[" ++ ", ".intercalate (set.toList.map Text.quoted) ++ "]"

end NameSet

end GatedManager.Text
