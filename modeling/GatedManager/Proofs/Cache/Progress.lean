import GatedManager.Proofs.Cache.Keys

/-!
# What a cache makes of its inputs

A reflector gets ready with the page that completes a list, and stays ready. Inputs and ticks leave
a cache its collections, and none of them begins or ends its life.
-/

namespace GatedManager

open Api (AnyObject)

namespace Watch

section

variable {α : Type}

theorem Reflector.ready_run (r : Reflector α) (events : List (Event α)) :
    (r.run events).ready = true ↔ r.ready = true ∨ Event.complete ∈ events := by
  induction events generalizing r with
  | nil => simp [run]
  | cons event events ih =>
      have next : r.run (event :: events) = (r.step event).run events := rfl
      rw [next, ih, List.mem_cons]
      cases event <;> simp [step]

/-- Whether the input is the last page of a list. -/
def Stage.completes (stage : Stage) (input : Input α) : Bool :=
  match stage, input with
  | .listing _, .page p => p.next.isNone
  | _, _ => false

theorem Stage.complete_mem_react {stage : Stage} {input : Input α} :
    Event.complete ∈ (stage.react input).events ↔ stage.completes input := by
  unfold react
  split
  case h_2 p =>
    have listed : Event.complete ∉ p.events := by simp [Page.events]
    split <;> simp [completes, *]
  -- no other pair of a stage and an input is a page of a list
  case h_12 =>
    unfold completes
    split <;> simp_all
  all_goals simp [completes]

theorem Informer.ready_take {i : Informer α} {input : Input α} {now : Instant} :
    (i.take input now).reflector.ready = true ↔
      i.reflector.ready = true ∨ i.stage.completes input = true :=
  (Reflector.ready_run _ _).trans (or_congr_right Stage.complete_mem_react)

end

end Watch

namespace Cache

variable {c : Cache} {n : Nat} {input : Watch.Input AnyObject} {now : Instant}

/-- An input changes nothing but the cells. -/
theorem take_eq (c : Cache) (n : Nat) (input : Watch.Input AnyObject) (now : Instant) :
    ∃ cells, c.take n input now = { c with cells := cells } := by
  unfold take
  split <;> exact ⟨_, rfl⟩

@[simp] theorem phase_take : (c.take n input now).phase = c.phase := by
  obtain ⟨cells, h⟩ := take_eq c n input now
  rw [h]

theorem tickTo_eq (c : Cache) (now : Instant) :
    ∃ sent metrics, c.tickTo now = { c with sent := sent, metrics := metrics } := by
  unfold tickTo
  split
  case h_2 => exact ⟨_, _, rfl⟩
  case h_1 start _ =>
    induction ticksDue start c.options.syncPeriod now - c.sent with
    | zero => exact ⟨_, _, rfl⟩
    | succ due ih =>
        obtain ⟨sent, metrics, hn⟩ := ih
        refine ⟨sent + 1, c.namespaces.foldl Metrics.recordResync metrics, ?_⟩
        rw [Nat.fold_succ, hn]
        rfl

@[simp] theorem phase_tickTo : (c.tickTo now).phase = c.phase := by
  obtain ⟨sent, metrics, h⟩ := tickTo_eq c now
  rw [h]

@[simp] theorem scheme_tickTo : (c.tickTo now).scheme = c.scheme := by
  obtain ⟨sent, metrics, h⟩ := tickTo_eq c now
  rw [h]

@[simp] theorem cells_tickTo : (c.tickTo now).cells = c.cells := by
  obtain ⟨sent, metrics, h⟩ := tickTo_eq c now
  rw [h]

/-- A start changes nothing but the phase. -/
theorem start_eq (c : Cache) (now : Instant) : c.start now =
    { c with phase :=
        if c.phase = .idle then (if c.cells.isEmpty then .ended else .running now) else c.phase } := by
  unfold start
  by_cases idle : c.phase = .idle
  · rw [if_neg (fun begun => begun idle), if_pos idle]
    split <;> rfl
  · rw [if_pos idle, if_neg idle]

@[simp] theorem cells_start : (c.start now).cells = c.cells := by rw [start_eq]

@[simp] theorem scheme_start : (c.start now).scheme = c.scheme := by rw [start_eq]

@[simp] theorem options_start : (c.start now).options = c.options := by rw [start_eq]

@[simp] theorem scheme_take : (c.take n input now).scheme = c.scheme := by
  obtain ⟨cells, h⟩ := take_eq c n input now
  rw [h]

@[simp] theorem options_take : (c.take n input now).options = c.options := by
  obtain ⟨cells, h⟩ := take_eq c n input now
  rw [h]

/-- An input for a cell leaves the others as they are. -/
theorem getElem?_take {k : Nat} {cell : Cell} (h : (c.take n input now).cells[k]? = some cell) :
    c.cells[k]? = some cell ∨ ∃ before begun, k = n ∧ c.phase = .running begun ∧
      c.cells[n]? = some before ∧
      cell = { before with informer := before.informer.take input now } := by
  unfold take at h
  split at h
  case h_2 => exact .inl h
  case h_1 begun running =>
    simp only [List.getElem?_modify] at h
    split at h
    case isFalse => exact .inl (by simpa using h)
    case isTrue same =>
      obtain ⟨before, hb, rfl⟩ := Option.map_eq_some_iff.1 h
      exact .inr ⟨before, begun, same.symm, running, same ▸ hb, rfl⟩

/-! ### Collections -/

/-- The collections of a cache, in the order of its cells. -/
def collections (c : Cache) : List Watch.Collection := c.cells.map Cell.collection

@[simp] theorem collections_take : (c.take n input now).collections = c.collections := by
  unfold collections take
  split
  case h_2 => rfl
  case h_1 =>
    refine List.ext_getElem? fun k => ?_
    simp only [List.getElem?_map, List.getElem?_modify]
    split
    case isFalse => simp
    case isTrue => cases c.cells[k]? <;> rfl

/-- Each kind of the scheme in each namespace. -/
theorem mem_collections_cellsOf {scheme : Scheme} {options : Options}
    {collection : Watch.Collection} :
    collection ∈ (cellsOf scheme options).map Cell.collection ↔
      ∃ kind ∈ scheme.kinds, ∃ place ∈ options.namespaces,
        collection = ⟨kind, some place.1, place.2⟩ := by
  have cells : (cellsOf scheme options).map Cell.collection =
      scheme.kinds.flatMap fun kind =>
        options.namespaces.map fun place => ⟨kind, some place.1, place.2⟩ := by
    simp [cellsOf, List.map_flatMap, Cell.collection, Function.comp_def]
  simp [cells, eq_comm]

/-! ### Readiness -/

/-- A cell keeps its kind, and its store stays ready. -/
structure Cell.Gains (before after : Cell) : Prop where
  kind : after.kind = before.kind
  ready : before.informer.reflector.ready = true → after.informer.reflector.ready = true

theorem gains_take (c : Cache) (n : Nat) (input : Watch.Input AnyObject) (now : Instant) :
    List.Forall₂ Cell.Gains c.cells (c.take n input now).cells := by
  have gains : ∀ (k : Nat) (cell cell' : Cell), c.cells[k]? = some cell →
      (c.take n input now).cells[k]? = some cell' → Cell.Gains cell cell' := by
    intro k cell cell' is_cell is_cell'
    rcases getElem?_take is_cell' with same | ⟨before, begun, rfl, -, is_before, rfl⟩
    · obtain rfl := Option.some.inj (same.symm.trans is_cell)
      exact ⟨rfl, id⟩
    · obtain rfl := Option.some.inj (is_before.symm.trans is_cell)
      exact ⟨rfl, fun ready => Watch.Informer.ready_take.2 (.inl ready)⟩
  refine List.forall₂_iff_get.2 ⟨?_, fun k lt lt' => ?_⟩
  · simpa [collections] using (congrArg List.length collections_take).symm
  · exact gains k _ _ (List.getElem?_eq_getElem lt) (List.getElem?_eq_getElem lt')

/-- Whether one of the stores that are kept is ready, found by its place. -/
def isReady (c : Cache) (k : Nat) : Bool := c.kept[k]?.any (·.informer.reflector.ready)

theorem kept_take (c : Cache) (n : Nat) (input : Watch.Input AnyObject) (now : Instant) :
    List.Forall₂ Cell.Gains c.kept (c.take n input now).kept :=
  forall₂_kept scheme_take (fun _ _ gains => gains.kind) (gains_take c n input now)

theorem isReady_of_gains {c' : Cache} {k : Nat} (gains : List.Forall₂ Cell.Gains c.kept c'.kept)
    (h : c.isReady k) : c'.isReady k := by
  obtain ⟨cell, is_cell, ready⟩ := Option.any_eq_true _ _ |>.1 h
  obtain ⟨lt, rfl⟩ := List.getElem?_eq_some_iff.1 is_cell
  have lt' := gains.length_eq ▸ lt
  simpa [isReady, List.getElem?_eq_getElem lt'] using (gains.get lt lt').ready ready

theorem ready_cellsOf {scheme : Scheme} {options : Options} {cell : Cell}
    (h : cell ∈ cellsOf scheme options) : cell.informer.reflector.ready = false := by
  obtain ⟨kind, -, in_kind⟩ := List.mem_flatMap.1 h
  obtain ⟨place, -, rfl⟩ := List.mem_map.1 in_kind
  rfl

/-- The collection whose list an input completes. -/
def completed? (c : Cache) (n : Nat) (input : Watch.Input AnyObject) : Option Watch.Collection :=
  match c.phase, c.cells[n]? with
  | .running _, some cell =>
    if cell.informer.stage.completes input then some cell.collection else none
  | _, _ => none

/-- A store that gets ready does so by the end of its list. -/
theorem ready_of_take {cell : Cell} (h : cell ∈ (c.take n input now).cells)
    (ready : cell.informer.reflector.ready = true) :
    (∃ before ∈ c.cells, before.collection = cell.collection ∧
      before.informer.reflector.ready = true) ∨
    c.completed? n input = some cell.collection := by
  obtain ⟨k, hk⟩ := List.mem_iff_getElem?.1 h
  rcases getElem?_take hk with before | ⟨before, begun, rfl, running, is_before, rfl⟩
  · exact .inl ⟨cell, List.mem_of_getElem? before, rfl, ready⟩
  · rcases Watch.Informer.ready_take.1 ready with earlier | completes
    · exact .inl ⟨before, List.mem_of_getElem? is_before, rfl, earlier⟩
    · refine .inr ?_
      simp only [completed?, running, is_before, completes, if_true]
      rfl

end Cache

end GatedManager
