import GatedManager.Proofs.Json.Members

/-!
# Values read from texts

The reader puts every member in its place, so in all the objects of a value that was read from a
text the names ascend.
-/

namespace GatedManager.Json

/-- In every object of the value the names ascend. -/
inductive Ordered : Json → Prop
  | null : Ordered null
  | bool (b : Bool) : Ordered (bool b)
  | int (n : Int) : Ordered (int n)
  | float (x : Float) : Ordered (float x)
  | str (s : String) : Ordered (str s)
  | arr {items : List Json} (each : ∀ j ∈ items, Ordered j) : Ordered (arr items)
  | obj {members : List (String × Json)} (ascending : Ascending members)
      (each : ∀ m ∈ members, Ordered m.2) : Ordered (obj members)

theorem Ordered.ascending {members : List (String × Json)} (h : Ordered (.obj members)) :
    Ascending members := by
  cases h with
  | obj ascending each => exact ascending

theorem Ordered.each {members : List (String × Json)} (h : Ordered (.obj members)) :
    ∀ m ∈ members, Ordered m.2 := by
  cases h with
  | obj ascending each => exact each

/-- Setting a member keeps an object in order. -/
theorem Ordered.insertMember (name : String) {value : Json} {members : List (String × Json)}
    (ascending : Ascending members) (each : ∀ m ∈ members, Ordered m.2) (new : Ordered value) :
    Ordered (.obj (insertMember name value members)) := by
  refine .obj ascending.insertMember ?_
  intro m hm
  rcases mem_insertMember hm with rfl | hm
  · exact new
  · exact each m hm

theorem Ordered.member? {name : String} {value : Json} {members : List (String × Json)}
    (h : Ordered (.obj members)) (found : Json.member? name members = some value) :
    Ordered value := by
  have each := h.each
  clear h
  induction members with
  | nil => cases found
  | cons m members ih =>
      rw [member?_cons] at found
      cases later : Json.member? name members with
      | some value' =>
          rw [later] at found
          obtain rfl := Option.some.inj found
          exact ih later fun m hm => each m (List.mem_cons_of_mem _ hm)
      | none =>
          rw [later, Option.none_or] at found
          split at found
          · obtain rfl := Option.some.inj found
            exact each m List.mem_cons_self
          · cases found

end GatedManager.Json
