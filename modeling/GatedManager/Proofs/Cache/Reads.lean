import GatedManager.Cache.Typed
import GatedManager.Proofs.Cache.Life
import GatedManager.Proofs.Watch.Kept

/-!
# What readers of a cache see

A cache is read in two ways: as the list of all objects of a kind in a namespace, and by the name of
one. Both look for the store under the key of the kind and then for the namespace. They agree with
one another at every moment of a life, and what comes to one informer changes what is read of no
other pair of a kind and a namespace. Both hold for a kind whose key is its own: kinds that share a
key are read from one store.
-/

namespace GatedManager

open Api (AnyObject)

theorem Scheme.recognizes_iff {scheme : Scheme} {kind : ResourceKind} :
    scheme.recognizes kind.apiVersion kind.kind = true ↔
      ∃ known ∈ scheme.kinds, known.typeName = kind.typeName := by
  simp [Scheme.recognizes, ResourceKind.typeName]

namespace Watch

/-- The objects of a store by their names. -/
def Store.named {α : Type} (store : Store α) : List (String × α) :=
  store.entries.map fun entry => (entry.1.name, entry.2)

/-- In a store of one namespace a reader finds what is kept under the name. -/
theorem Store.IsKept.lookup_eq {α : Type} {form : Form α} {namespaceName : String}
    {store : Store α} (h : store.IsKept form namespaceName) (name : String) :
    store.lookup namespaceName name = store.named.lookup name := by
  have outside : store.get? ⟨none, name⟩ = none := by
    rw [Store.get?, Option.map_eq_none_iff, List.find?_eq_none]
    intro entry known at_none
    have inside := (h.keeps entry known).inNamespace
    rw [of_decide_eq_true at_none] at inside
    cases inside
  have inside : ∀ entries : List (ObjectKey × α),
      (∀ entry ∈ entries, entry.1.namespaceName = some namespaceName) →
      (entries.find? (·.1 = ⟨some namespaceName, name⟩)).map Prod.snd =
        (entries.map fun entry => (entry.1.name, entry.2)).lookup name := by
    intro entries
    induction entries with
    | nil => exact fun _ => rfl
    | cons first rest ih =>
        intro together
        obtain ⟨here, there⟩ := List.forall_mem_cons.1 together
        obtain ⟨⟨place, known⟩, object⟩ := first
        obtain rfl : place = some namespaceName := here
        by_cases same : known = name
        · simp [same]
        · simp [same, List.lookup_cons, beq_false_of_ne (Ne.symm same), ih there]
  rw [Store.lookup, outside, Option.or_none]
  exact inside _ fun entry known => (h.keeps entry known).inNamespace

end Watch

namespace Cache

variable {c : Cache} {kind known : ResourceKind} {namespaceName : String}

/-- Whether a cell is the one of a kind in a namespace. -/
def Cell.IsOf (cell : Cell) (kind : ResourceKind) (namespaceName : String) : Prop :=
  cell.kind.typeName = kind.typeName ∧ cell.namespaceName = namespaceName

/-- There is a cell for each kind of the scheme in each namespace. -/
theorem exists_cell_iff {options : Options}
    (cells : c.collections = (cellsOf c.scheme options).map Cell.collection) :
    (∃ cell ∈ c.cells, cell.kind = known ∧ cell.namespaceName = namespaceName) ↔
      known ∈ c.scheme.kinds ∧ namespaceName ∈ options.names := by
  have listed : (∃ cell ∈ c.cells, cell.kind = known ∧ cell.namespaceName = namespaceName) ↔
      ∃ selection, ⟨known, some namespaceName, selection⟩ ∈ c.collections := by
    simp only [collections, List.mem_map, Cell.collection, Watch.Collection.mk.injEq,
      Option.some.injEq]
    constructor
    · rintro ⟨cell, is_cell, rfl, rfl⟩
      exact ⟨cell.selection, cell, is_cell, rfl, rfl, rfl⟩
    · rintro ⟨-, cell, is_cell, rfl, rfl, -⟩
      exact ⟨cell, is_cell, rfl, rfl⟩
  rw [listed, cells]
  simp only [mem_collections_cellsOf]
  simp only [Watch.Collection.mk.injEq, Option.some.injEq, Options.names, List.mem_map]
  constructor
  · rintro ⟨selection, kind, is_kind, place, is_place, rfl, rfl, -⟩
    exact ⟨is_kind, place, is_place, rfl⟩
  · rintro ⟨is_kind, place, is_place, rfl⟩
    exact ⟨place.2, known, is_kind, place, is_place, rfl, rfl, rfl⟩

/-- Which store is read: there is one for each kind of the scheme in each namespace, and there is
no other. -/
theorem store?_spec {options : Options} (apart : c.scheme.TellsApart kind)
    (cells : c.collections = (cellsOf c.scheme options).map Cell.collection)
    (namespaceName : String) :
    (c.scheme.recognizes kind.apiVersion kind.kind = false ∧
      c.store? kind namespaceName = .error (.unknownKind kind)) ∨
    (c.scheme.recognizes kind.apiVersion kind.kind = true ∧ namespaceName ∉ options.names ∧
      c.store? kind namespaceName = .error (.unknownNamespace namespaceName)) ∨
    (c.scheme.recognizes kind.apiVersion kind.kind = true ∧ namespaceName ∈ options.names ∧
      ∃ cell ∈ c.cells, cell.IsOf kind namespaceName ∧
        c.store? kind namespaceName = .ok cell.informer.reflector.store) := by
  unfold store?
  cases kept : c.scheme.keptUnder? kind.key with
  | none =>
      refine .inl ⟨?_, rfl⟩
      rw [Bool.eq_false_iff, ne_eq, Scheme.recognizes_iff]
      rintro ⟨known, is_known, same⟩
      have same_key := ResourceKind.key_eq_of_typeName same
      exact Scheme.keptUnder?_eq_none_iff.1 kept known is_known same_key
  | some known =>
      obtain ⟨is_known, same_key⟩ := Scheme.of_keptUnder? kept
      have same := apart known is_known same_key
      have recognized := Scheme.recognizes_iff.2 ⟨known, is_known, same⟩
      refine .inr ?_
      dsimp only
      split
      case h_1 none_found =>
        refine .inl ⟨recognized, fun configured => ?_, rfl⟩
        obtain ⟨cell, is_cell, is_of⟩ := (exists_cell_iff cells).2 ⟨is_known, configured⟩
        exact List.find?_eq_none.1 none_found cell is_cell (decide_eq_true is_of)
      case h_2 cell found =>
        have is_cell := List.mem_of_find?_eq_some found
        have is_of := List.find?_some found
        obtain ⟨rfl, rfl⟩ := of_decide_eq_true is_of
        have configured := (exists_cell_iff cells).1 ⟨cell, is_cell, rfl, rfl⟩
        exact .inr ⟨recognized, configured.2, cell, is_cell, ⟨same, rfl⟩, rfl⟩

theorem find?_modify_of_not {β : Type} {p : β → Bool} {f : β → β} {items : List β} {n : Nat}
    (keeps : ∀ item, p (f item) = p item)
    (other : ∀ item, items[n]? = some item → p item = false) :
    (items.modify n f).find? p = items.find? p := by
  induction items generalizing n with
  | nil => simp
  | cons first rest ih =>
      cases n with
      | zero =>
          have passes := other first rfl
          simp [keeps, passes]
      | succ n =>
          have below : (rest.modify n f).find? p = rest.find? p := ih fun item is => other item is
          simp [List.find?_cons, below]

/-- What another informer takes leaves a store alone. -/
theorem store?_take (apart : c.scheme.TellsApart kind) {n : Nat}
    (other : ∀ cell, c.cells[n]? = some cell → ¬cell.IsOf kind namespaceName)
    (input : Watch.Input AnyObject) (now : Instant) :
    (c.take n input now).store? kind namespaceName = c.store? kind namespaceName := by
  unfold store?
  rw [scheme_take]
  cases kept : c.scheme.keptUnder? kind.key with
  | none => rfl
  | some known =>
      obtain ⟨is_known, same_key⟩ := Scheme.of_keptUnder? kept
      have same := apart known is_known same_key
      have found : (c.take n input now).cells.find? (fun cell =>
          cell.kind = known ∧ cell.namespaceName = namespaceName) = c.cells.find? (fun cell =>
          cell.kind = known ∧ cell.namespaceName = namespaceName) := by
        unfold take
        split
        case h_2 => rfl
        case h_1 =>
          refine find?_modify_of_not (fun _ => rfl) ?_
          intro cell is_cell
          refine decide_eq_false ?_
          rintro ⟨rfl, rfl⟩
          exact other cell is_cell ⟨same, rfl⟩
      simp only [found]

section Readers

variable {α : Type} {read? : Json → Option α}

theorem parse_eq_ok_iff {object : AnyObject} {item : α} :
    parse read? object = .ok item ↔ read? object.toJson = some item := by
  unfold parse
  split <;> simp_all

theorem eq_unparsable_of_parse {object : AnyObject} {fault : ReadFault}
    (h : parse read? object = .error fault) : fault = .unparsable := by
  unfold parse at h
  split at h
  · cases h
    rfl
  · cases h

theorem list_eq_of_store {store : Watch.Store AnyObject}
    (found : c.store? kind namespaceName = .ok store) :
    c.list read? kind namespaceName = store.objects.mapM (parse read?) := by
  rw [list, found]
  rfl

/-- What is read of the object of a name. -/
def readNamed (read? : Json → Option α) (stored : List (String × AnyObject)) (name : String) :
    Except ReadFault (Option α) :=
  match stored.lookup name with
  | none => .ok none
  | some object => (parse read? object).map some

theorem get_eq_of_store {store : Watch.Store AnyObject}
    (found : c.store? kind namespaceName = .ok store) (kept : store.IsKept wire namespaceName)
    (name : String) :
    c.get read? kind namespaceName name = readNamed read? store.named name := by
  rw [readNamed, ← kept.lookup_eq name]
  simp only [get, found, bind, Except.bind]
  cases store.lookup namespaceName name with
  | none => rfl
  | some object => cases parse read? object <;> rfl

theorem list_eq_of_fault {fault : ReadFault} (h : c.store? kind namespaceName = .error fault) :
    c.list read? kind namespaceName = .error fault := by
  rw [list, h]
  rfl

theorem get_eq_of_fault {fault : ReadFault} (h : c.store? kind namespaceName = .error fault)
    (name : String) : c.get read? kind namespaceName name = .error fault := by
  rw [get, h]
  rfl

theorem eq_unparsable_of_readNamed {stored : List (String × AnyObject)} {name : String}
    {fault : ReadFault} (h : readNamed read? stored name = .error fault) :
    fault = .unparsable := by
  unfold readNamed at h
  split at h
  · cases h
  case h_2 object _ =>
    cases parsed : parse read? object with
    | ok item =>
        rw [parsed] at h
        cases h
    | error fault' =>
        rw [parsed] at h
        cases h
        exact eq_unparsable_of_parse parsed

/-- How the list of a collection and the look-ups by a name fit together when `stored` is what is
stored under each name. -/
structure Agree (read? : Json → Option α) (stored : List (String × AnyObject))
    (list : Except ReadFault (List α)) (get : String → Except ReadFault (Option α)) : Prop where
  distinct : (stored.map Prod.fst).Nodup
  listed : ∀ items, list = .ok items →
    List.Forall₂ (fun entry item => read? entry.2.toJson = some item) stored items
  got : ∀ items, list = .ok items →
    ∀ name, get name = .ok (((stored.map Prod.fst).zip items).lookup name)
  unlisted : ∀ fault, list = .error fault → fault = .unparsable ∧
    ∀ entry ∈ stored, ∀ item, read? entry.2.toJson = some item → get entry.1 = .ok (some item)

theorem readNamed_of_listed {stored : List (String × AnyObject)} {items : List α}
    (listed : List.Forall₂ (fun entry item => read? entry.2.toJson = some item) stored items)
    (name : String) :
    readNamed read? stored name = .ok (((stored.map Prod.fst).zip items).lookup name) := by
  induction listed with
  | nil => rfl
  | @cons entry item stored items read _ ih =>
      obtain ⟨known, object⟩ := entry
      unfold readNamed at ih ⊢
      simp only [List.map_cons, List.zip_cons_cons, List.lookup_cons]
      cases name == known with
      | true =>
          dsimp only
          rw [parse_eq_ok_iff.2 read]
          rfl
      | false => exact ih

theorem lookup_of_mem {stored : List (String × AnyObject)} {entry : String × AnyObject}
    (distinct : (stored.map Prod.fst).Nodup) (known : entry ∈ stored) :
    stored.lookup entry.1 = some entry.2 := by
  induction stored with
  | nil => cases known
  | cons first rest ih =>
      obtain ⟨fresh, rest_distinct⟩ := List.nodup_cons.1 distinct
      rcases List.mem_cons.1 known with rfl | later
      · exact List.lookup_cons_self
      · have other : (entry.1 == first.1) = false :=
          beq_false_of_ne fun same => fresh (same ▸ List.mem_map_of_mem later)
        obtain ⟨name, object⟩ := first
        rw [List.lookup_cons, other]
        exact ih rest_distinct later

theorem agree_of_isKept {store : Watch.Store AnyObject} (kept : store.IsKept wire namespaceName) :
    Agree read? store.named (store.objects.mapM (parse read?)) (readNamed read? store.named) := by
  have distinct : (store.named.map Prod.fst).Nodup := by
    simpa [Watch.Store.named, Function.comp_def] using kept.nodup_names
  have objects_eq : store.objects = store.named.map Prod.snd := by
    simp [Watch.Store.named, Watch.Store.objects, Function.comp_def]
  have listed : ∀ items, store.objects.mapM (parse read?) = .ok items →
      List.Forall₂ (fun entry item => read? entry.2.toJson = some item) store.named items := by
    intro items is_list
    rw [objects_eq] at is_list
    have pairs := mapM_eq_ok_iff.1 is_list
    rw [List.forall₂_map_left_iff] at pairs
    exact pairs.imp fun _ _ => parse_eq_ok_iff.1
  refine ⟨distinct, listed, fun items is_list => readNamed_of_listed (listed items is_list), ?_⟩
  intro fault is_fault
  refine ⟨?_, ?_⟩
  · obtain ⟨-, object, -, -, -, unparsable⟩ := mapM_eq_error_iff.1 is_fault
    exact eq_unparsable_of_parse unparsable
  · intro entry known item read
    rw [readNamed, lookup_of_mem distinct known]
    simp only [parse_eq_ok_iff.2 read]
    rfl

end Readers

namespace Life

/-! ### Lives -/

/-- Whether an event brings an object that does not carry the namespace of the collection. -/
def strays (l : Life) : Event → Bool
  | .deliver cell delivery =>
    match l.cache.cells[cell]?, delivery.input with
    | some cell, .ok input => input.entries.any (·.1.namespaceName ≠ some cell.namespaceName)
    | _, _ => false
  | _ => false

/-- Whether an event comes to the informer of a kind in a namespace. -/
def Concerns (l : Life) (event : Event) (kind : ResourceKind) (namespaceName : String) : Prop :=
  ∃ n delivery cell, event = .deliver n delivery ∧ l.cache.cells[n]? = some cell ∧
    cell.IsOf kind namespaceName

structure Sound (scheme : Scheme) (options : Options) (l : Life) : Prop where
  scheme_eq : l.cache.scheme = scheme
  collections : l.cache.collections = (cellsOf scheme options).map Cell.collection
  kept : ∀ cell ∈ l.cache.cells, cell.informer.reflector.IsKept wire cell.namespaceName

variable {scheme : Scheme} {options : Options} {l l' : Life} {event : Event}

/-- What is delivered has every object under its own key. -/
theorem keyed_of_input {delivery : Delivery} {input : Watch.Input AnyObject}
    (h : delivery.input = .ok input) :
    ∀ entry ∈ input.entries, wire.keyed entry.2 = .ok entry := by
  cases delivery with
  | page items next => exact Watch.Form.keyed_of_page h
  | notice type object =>
      cases is_notice : wire.notice type object with
      | error crash =>
          rw [Delivery.input, is_notice] at h
          cases h
      | ok notice =>
          rw [Delivery.input, is_notice] at h
          obtain rfl := Except.ok.inj h
          exact Watch.Form.keyed_of_notice is_notice
  | _ =>
      obtain rfl := Except.ok.inj h
      exact List.forall_mem_nil _

theorem sound_begin (built : build scheme options = .ok c) (now : Instant) :
    (begin c now).Sound scheme options := by
  obtain ⟨-, -, rfl⟩ := of_build built
  refine ⟨rfl, rfl, ?_⟩
  intro cell is_cell
  obtain ⟨kind, -, in_kind⟩ := List.mem_flatMap.1 is_cell
  obtain ⟨place, -, rfl⟩ := List.mem_map.1 in_kind
  exact ⟨.empty, .empty⟩

theorem Sound.step (h : l.Sound scheme options)
    (hs : barring Life.step strays l event = some l') : l'.Sound scheme options := by
  obtain ⟨straight, hs⟩ := barring_eq_some_iff.1 hs
  have advances := advances_of_step hs
  obtain ⟨scheme_eq, -, collections_eq⟩ := advances.frame
  refine ⟨scheme_eq.trans h.scheme_eq, collections_eq.trans h.collections, ?_⟩
  rcases advances.cells with same | ⟨n, delivery, input, rfl, is_input, taken⟩
  · rw [same]
    exact h.kept
  · intro cell is_cell
    rw [taken] at is_cell
    obtain ⟨k, hk⟩ := List.mem_iff_getElem?.1 is_cell
    rcases getElem?_take hk with old | ⟨before, begun, rfl, -, is_before, rfl⟩
    · exact h.kept cell (List.mem_of_getElem? old)
    · refine Watch.Informer.isKept_take (h.kept before (List.mem_of_getElem? is_before)) ?_
      intro entry brought
      refine ⟨keyed_of_input is_input entry brought, ?_⟩
      simp only [strays, is_before, is_input] at straight
      simpa using List.any_eq_false.1 straight entry brought

theorem Sound.run {events : List Event} (h : l.Sound scheme options)
    (run : runFrom (barring Life.step strays) l events = some l') : l'.Sound scheme options :=
  runFrom_invariant (fun _ _ _ h hs => h.step hs) h run

/-- An event that does not come to the informer of a pair leaves its store alone. -/
theorem store?_of_step {kind : ResourceKind} {namespaceName : String}
    (apart : l.cache.scheme.TellsApart kind)
    (hs : l.step event = some l') (other : ¬l.Concerns event kind namespaceName) :
    l'.cache.store? kind namespaceName = l.cache.store? kind namespaceName := by
  have advances := advances_of_step hs
  rcases advances.cells with same | ⟨n, delivery, input, rfl, is_input, taken⟩
  · simp only [store?, same, advances.frame.1]
  · rw [taken]
    refine store?_take apart ?_ input l.now
    intro cell is_cell is_of
    exact other ⟨n, delivery, cell, rfl, is_cell, is_of⟩

/-- What the readers of a kind in a namespace are told at a moment of a life. -/
structure Answers {α : Type} (scheme : Scheme) (options : Options) (l : Life)
    (read? : Json → Option α) (kind : ResourceKind) (namespaceName : String) : Prop where
  /-- The kind is named exactly when the scheme does not recognize it. -/
  unknownKind : ∀ named,
    (l.cache.list read? kind namespaceName = .error (.unknownKind named) ↔
      named = kind ∧ scheme.recognizes kind.apiVersion kind.kind = false) ∧
    ∀ name, (l.cache.get read? kind namespaceName name = .error (.unknownKind named) ↔
      named = kind ∧ scheme.recognizes kind.apiVersion kind.kind = false)
  /-- Otherwise the namespace is named exactly when it is not configured. -/
  unknownNamespace : ∀ named,
    (l.cache.list read? kind namespaceName = .error (.unknownNamespace named) ↔
      named = namespaceName ∧ scheme.recognizes kind.apiVersion kind.kind = true ∧
        namespaceName ∉ options.names) ∧
    ∀ name, (l.cache.get read? kind namespaceName name = .error (.unknownNamespace named) ↔
      named = namespaceName ∧ scheme.recognizes kind.apiVersion kind.kind = true ∧
        namespaceName ∉ options.names)
  /-- All else that is told is what the reflector of the pair has stored. -/
  agree : scheme.recognizes kind.apiVersion kind.kind = true → namespaceName ∈ options.names →
    ∃ cell ∈ l.cache.cells, cell.IsOf kind namespaceName ∧
      Agree read? cell.informer.reflector.store.named
        (l.cache.list read? kind namespaceName) (l.cache.get read? kind namespaceName)

theorem Sound.answers {α : Type} {kind : ResourceKind} (h : l.Sound scheme options)
    (apart : scheme.TellsApart kind) (read? : Json → Option α) (namespaceName : String) :
    Answers scheme options l read? kind namespaceName := by
  obtain ⟨rfl, collections, kept⟩ := h
  rcases store?_spec apart collections namespaceName with
    ⟨strange, fault⟩ | ⟨recognized, absent, fault⟩ |
      ⟨recognized, there, cell, is_cell, is_of, found⟩
  · have list_eq : l.cache.list read? kind namespaceName = .error (.unknownKind kind) :=
      list_eq_of_fault fault
    have get_eq : ∀ name, l.cache.get read? kind namespaceName name = .error (.unknownKind kind) :=
      get_eq_of_fault fault
    constructor <;> simp [list_eq, get_eq, strange, eq_comm]
  · have list_eq : l.cache.list read? kind namespaceName =
        .error (.unknownNamespace namespaceName) := list_eq_of_fault fault
    have get_eq : ∀ name, l.cache.get read? kind namespaceName name =
        .error (.unknownNamespace namespaceName) := get_eq_of_fault fault
    constructor <;> simp [list_eq, get_eq, recognized, absent, eq_comm]
  · have kept_here : cell.informer.reflector.store.IsKept wire namespaceName :=
      is_of.2 ▸ (kept cell is_cell).store
    have get_eq : l.cache.get read? kind namespaceName =
        readNamed read? cell.informer.reflector.store.named :=
      funext (get_eq_of_store found kept_here)
    have agree : Agree read? cell.informer.reflector.store.named
        (l.cache.list read? kind namespaceName) (l.cache.get read? kind namespaceName) := by
      rw [list_eq_of_store found, get_eq]
      exact agree_of_isKept kept_here
    have list_fault : ∀ fault, l.cache.list read? kind namespaceName = .error fault →
        fault = .unparsable := fun fault told => (agree.unlisted fault told).1
    have get_fault : ∀ name fault, l.cache.get read? kind namespaceName name = .error fault →
        fault = .unparsable := by
      intro name fault told
      rw [get_eq] at told
      exact eq_unparsable_of_readNamed told
    refine ⟨fun named => ⟨?_, fun name => ?_⟩, fun named => ⟨?_, fun name => ?_⟩, ?_⟩
    · exact iff_of_false (fun told => nomatch list_fault _ told)
        fun strange => nomatch recognized.symm.trans strange.2
    · exact iff_of_false (fun told => nomatch get_fault _ _ told)
        fun strange => nomatch recognized.symm.trans strange.2
    · exact iff_of_false (fun told => nomatch list_fault _ told)
        fun strange => strange.2.2 there
    · exact iff_of_false (fun told => nomatch get_fault _ _ told)
        fun strange => strange.2.2 there
    · exact fun _ _ => ⟨cell, is_cell, is_of, agree⟩

/-- At every moment of a life, what happens to other pairs of a kind and a namespace changes nothing
that is read of this one, and the two ways to read it agree, as long as the key of the kind is that
of no other one. -/
theorem reads_isolated_and_consistent {α : Type} {c : Cache}
    (built : build scheme options = .ok c) (start : Instant) (events : List Event)
    (run : runFrom (barring Life.step strays) (begin c start) events = some l)
    (read? : Json → Option α) {kind : ResourceKind} (apart : scheme.TellsApart kind)
    (namespaceName : String) :
    (∀ event l', l.step event = some l' → ¬l.Concerns event kind namespaceName →
      l'.cache.list read? kind namespaceName = l.cache.list read? kind namespaceName ∧
      ∀ name, l'.cache.get read? kind namespaceName name =
        l.cache.get read? kind namespaceName name) ∧
    Answers scheme options l read? kind namespaceName := by
  have sound := (sound_begin built start).run run
  refine ⟨?_, sound.answers apart read? namespaceName⟩
  intro event l' hs other
  have same := store?_of_step (sound.scheme_eq.symm ▸ apart) hs other
  exact ⟨by simp only [list, same], fun name => by simp only [get, same]⟩

/-- A machine as it is listed, and a change of it. -/
def worker (version phase : String) : Json :=
  .obj [("apiVersion", .str "machine.openshift.io/v1beta1"), ("kind", .str "Machine"),
    ("metadata", .obj [("name", .str "worker"), ("namespace", .str "machines"),
      ("resourceVersion", .str version)]),
    ("phase", .str phase)]

/-- A machine is listed and then changed. -/
def changing : List Event :=
  [.start, .deliver 0 .go, .deliver 0 (.page [worker "1" "Running"] none), .deliver 0 .opened,
    .deliver 0 (.notice "MODIFIED" (worker "2" "Deleting"))]

theorem changed_machine_is_read :
    ∃ c l, build .machineApi (.single "machines" (.ofSeconds 600)) = .ok c ∧
      runFrom (barring Life.step strays) (begin c 0) changing = some l ∧
      l.cache.get (·.get? "phase") .machine "machines" "worker" = .ok (some (.str "Deleting")) ∧
      Answers .machineApi (.single "machines" (.ofSeconds 600)) l (·.get? "phase") .machine
        "machines" := by
  refine ⟨_, _, rfl, rfl, rfl, ?_⟩
  have apart : Scheme.machineApi.TellsApart .machine :=
    Scheme.tellsApart_of_isPlain (by decide) (by decide)
  exact (reads_isolated_and_consistent rfl 0 changing rfl _ apart _).2

/-- What is listed for one of two kinds with the same key is read of the other one, and a kind that
is not registered is read under the key of one that is. -/
theorem shared_key_mixes_reads :
    (∃ c l l', build .ambiguous (.single "machines" (.ofSeconds 600)) = .ok c ∧
      runFrom (barring Life.step strays) (begin c 0) [.start, .deliver 1 .go] = some l ∧
      barring Life.step strays l (.deliver 1 (.page [worker "1" "Running"] none)) = some l' ∧
      ¬l.Concerns (.deliver 1 (.page [worker "1" "Running"] none)) ⟨"g", "v", "A", "as"⟩
        "machines" ∧
      l.cache.get (·.get? "phase") ⟨"g", "v", "A", "as"⟩ "machines" "worker" = .ok none ∧
      l'.cache.get (·.get? "phase") ⟨"g", "v", "A", "as"⟩ "machines" "worker" =
        .ok (some (.str "Running"))) ∧
    ∃ c, build (({} : Scheme).add ⟨"g", "v", "A", "as"⟩) (.single "machines" (.ofSeconds 600)) =
        .ok c ∧
      c.scheme.recognizes "g" "v/A" = false ∧
      c.list (·.get? "phase") ⟨"", "g", "v/A", "vas"⟩ "machines" = .ok [] := by
  refine ⟨⟨_, _, _, rfl, rfl, rfl, ?_, rfl, rfl⟩, _, rfl, by decide, rfl⟩
  rintro ⟨_, _, cell, ⟨⟩, ⟨⟩, kinds, -⟩
  exact absurd kinds (by decide)

end Life

end Cache

end GatedManager
