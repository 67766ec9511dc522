/-!
# Stores

A store keeps one object per key, in the order of the names. An object is kept under its own name
and namespace, and a reader in a namespace also sees objects that have none.
-/

namespace GatedManager.Watch

/-- Where an object is kept: its own namespace, if it has one, and its name. -/
structure ObjectKey where
  namespaceName : Option String
  name : String
deriving Repr, DecidableEq

/-- The order of keys: by name, then by namespace, no namespace coming first. -/
def ObjectKey.before (a b : ObjectKey) : Bool :=
  if a.name = b.name then
    match a.namespaceName, b.namespaceName with
    | none, some _ => true
    | some s, some t => s < t
    | _, none => false
  else a.name < b.name

structure Store (α : Type) where
  entries : List (ObjectKey × α)

namespace Store

variable {α : Type}

def empty : Store α := ⟨[]⟩

/-- Entries with an object in place, in front of the first key that comes after it. -/
def putEntry (key : ObjectKey) (object : α) : List (ObjectKey × α) → List (ObjectKey × α)
  | [] => [(key, object)]
  | (k, o) :: rest =>
    if key = k then (key, object) :: rest
    else if key.before k then (key, object) :: (k, o) :: rest
    else (k, o) :: putEntry key object rest

/-- The store with an object, which takes the place of the one under its key. -/
def put (s : Store α) (key : ObjectKey) (object : α) : Store α := ⟨putEntry key object s.entries⟩

/-- The store without the object under a key. -/
def erase (s : Store α) (key : ObjectKey) : Store α := ⟨s.entries.filter (·.1 ≠ key)⟩

def get? (s : Store α) (key : ObjectKey) : Option α :=
  (s.entries.find? (·.1 = key)).map Prod.snd

def objects (s : Store α) : List α := s.entries.map Prod.snd

def size (s : Store α) : Nat := s.entries.length

/-- The object of a name as a reader in a namespace sees it. -/
def lookup (s : Store α) (namespaceName name : String) : Option α :=
  (s.get? ⟨some namespaceName, name⟩).or (s.get? ⟨none, name⟩)

end Store

end GatedManager.Watch
