import GatedManager.Proofs.Election.Attempt
import GatedManager.Proofs.Election.Chronicle
import Mathlib.Logic.Function.Basic

/-!
# Contests for one lease

Any number of electors contend for one lease, which only they write. Each may begin an attempt
whenever it likes, also while older ones are open. The server serves requests in any order and at
any time, an answer arrives at any time after its request was served, and both may be lost: they
are never served or never arrive. To an elector that is the same as an error, which leaves it as it
was. The request of an attempt that was given up may still have a lease stored.

Every history of the lease is a chronicle, so no lease is taken over too early and none is lost.
-/

namespace GatedManager.Election

open Api (Lease)
open Simulation (LeaseServer)

/-- A request on its way, with its answer once the server has served it. -/
structure Flight (ι : Type) where
  sender : ι
  attempt : Attempt
  answer : Option Answer := none

structure Contest (ι : Type) where
  now : Instant
  server : LeaseServer
  /-- The electors whose processes have not ended. -/
  electors : ι → Option Elector
  flights : List (Flight ι) := []
  /-- The leases that were stored, the latest first. -/
  history : List (Entry ι)

namespace Contest

/-- What can happen next. -/
inductive Move (ι : Type)
  /-- Time passes. -/
  | pass (d : Duration)
  /-- An elector begins an attempt at a reading of its wall clock. -/
  | attempt (i : ι) (clock : { t : Timestamp // t.IsValid })
  /-- The server serves a request. -/
  | serve (n : Nat)
  /-- An answer arrives. -/
  | deliver (n : Nat)

variable {ι : Type}

/-- The history after a request of elector `i`: a new version tells that a lease was stored. -/
def historyAfter (w : Contest ι) (i : ι) (server : LeaseServer) : List (Entry ι) :=
  match server.stored with
  | some lease =>
    if server.version = w.server.version then w.history
    else ⟨w.now, server.version, some i, lease⟩ :: w.history
  | none => w.history

def begin (identity : ι → String) (config : ι → Config) (lease : Option { j : Json // j.Ordered })
    (now : Instant) : Contest ι :=
  let server := LeaseServer.store {} (lease.map Subtype.val)
  { now := now
    server := server
    electors := fun i => some (candidate identity config i)
    history := server.stored.toList.map fun lease => ⟨now, server.version, none, lease⟩ }

def attempt (w : Contest ι) (i : ι) (clock : Timestamp) : Contest ι :=
  match w.electors i with
  | some _ => { w with flights := ⟨i, .reading clock, none⟩ :: w.flights }
  | none => w

def serve (w : Contest ι) (n : Nat) : Contest ι :=
  match w.flights[n]? with
  | some ⟨i, attempt, none⟩ =>
    let (response, server) := w.server.respond attempt.request
    { w with
      server := server
      flights := w.flights.set n ⟨i, attempt, some (response.answer attempt.request)⟩
      history := w.historyAfter i server }
  | _ => w

/-- An elector takes an answer. Its process ends when its arithmetic has no result. -/
def take [DecidableEq ι] (w : Contest ι) (i : ι) (attempt : Attempt) (answer : Answer) :
    Contest ι :=
  match w.electors i with
  | none => w
  | some elector =>
    match elector.advance attempt answer w.now with
    | .error _ => { w with electors := Function.update w.electors i none }
    | .ok (elector, .finished _) =>
      { w with electors := Function.update w.electors i (some elector) }
    | .ok (elector, .waiting attempt) =>
      { w with
        electors := Function.update w.electors i (some elector)
        flights := ⟨i, attempt, none⟩ :: w.flights }

def deliver [DecidableEq ι] (w : Contest ι) (n : Nat) : Contest ι :=
  match w.flights[n]? with
  | some ⟨i, attempt, some answer⟩ =>
    take { w with flights := w.flights.eraseIdx n } i attempt answer
  | _ => w

/-- What is not possible changes nothing. -/
def step [DecidableEq ι] (w : Contest ι) : Move ι → Contest ι
  | .pass d => { w with now := w.now + d.nanos }
  | .attempt i clock => w.attempt i clock
  | .serve n => w.serve n
  | .deliver n => w.deliver n

def run [DecidableEq ι] (w : Contest ι) (moves : List (Move ι)) : Contest ι := moves.foldl step w

/-! ### What each move keeps -/

variable (identity : ι → String) (config : ι → Config)

/-- The elector's own record was seen, or an entry had it by then. -/
def Traced (history : List (Entry ι)) (own : String) (seen : Observed) : Prop :=
  seen.record.holder = own ∨
    ∃ entry ∈ history, entry.record? = some seen.record ∧ entry.storedAt ≤ seen.since

/-- What is known of elector `i`. -/
structure Knows (history : List (Entry ι)) (i : ι) (elector : Elector) : Prop where
  same_identity : elector.identity = identity i
  same_config : elector.config = config i
  memory : ∀ seen, elector.observed = some seen → Traced history (identity i) seen

/-- What an attempt of elector `i` is based on. -/
inductive Based (history : List (Entry ι)) (now : Instant) (i : ι) : Attempt → Prop
  | reading {clock : Timestamp} (valid : clock.IsValid) : Based history now i (.reading clock)
  | creating {clock : Timestamp} {lease : Lease} (valid : clock.IsValid)
      (written : (candidate identity config i).newLease?
        (Record.first (identity i) clock (config i).leaseDuration) = some lease) :
      Based history now i
        (.creating (Record.first (identity i) clock (config i).leaseDuration) lease)
  | replacing {record : Record} {lease : Lease} {entry : Entry ι} (own : record.holder = identity i)
      (known : entry ∈ history)
      (decision : Decision identity config history now i entry lease) :
      Based history now i (.replacing record lease)

structure Sound (w : Contest ι) : Prop where
  chronicle : Chronicle identity config w.history
  stored : w.server.stored = w.history.head?.map Entry.lease
  version : ∀ entry ∈ w.history, entry.version ≤ w.server.version
  past : ∀ entry ∈ w.history, entry.storedAt ≤ w.now
  electors : ∀ i elector, w.electors i = some elector →
    Knows identity config w.history i elector
  attempts : ∀ flight ∈ w.flights,
    Based identity config w.history w.now flight.sender flight.attempt
  answers : ∀ flight ∈ w.flights, ∀ lease, flight.answer = some (.read (.ok (some lease))) →
    ∃ entry ∈ w.history, entry.lease? = some lease

variable {identity config} {w : Contest ι} {history history' : List (Entry ι)} {i : ι}

theorem Traced.mono {own : String} {seen : Observed} (h : Traced history own seen)
    (grows : history ⊆ history') : Traced history' own seen := by
  rcases h with own | ⟨entry, known, same, before⟩
  · exact .inl own
  · exact .inr ⟨entry, grows known, same, before⟩

theorem Knows.mono {elector : Elector} (h : Knows identity config history i elector)
    (grows : history ⊆ history') : Knows identity config history' i elector :=
  ⟨h.same_identity, h.same_config, fun seen is => (h.memory seen is).mono grows⟩

theorem Based.mono {now now' : Instant} {attempt : Attempt}
    (h : Based identity config history now i attempt) (grows : history ⊆ history')
    (later : now ≤ now') : Based identity config history' now' i attempt := by
  cases h with
  | reading valid => exact .reading valid
  | creating valid written => exact .creating valid written
  | replacing own known decision => exact .replacing own (grows known) (decision.mono grows later)

/-- What electors know and attempts are based on stays true while the history grows. -/
theorem Sound.grow {now : Instant} {server : LeaseServer} (h : w.Sound identity config)
    (chronicle : Chronicle identity config history)
    (stored : server.stored = history.head?.map Entry.lease)
    (version : ∀ entry ∈ history, entry.version ≤ server.version)
    (past : ∀ entry ∈ history, entry.storedAt ≤ now) (grows : w.history ⊆ history)
    (later : w.now ≤ now) :
    Sound identity config { w with now := now, server := server, history := history } := by
  refine ⟨chronicle, stored, version, past, ?_, ?_, ?_⟩
  · exact fun i elector is => (h.electors i elector is).mono grows
  · exact fun flight sent => (h.attempts flight sent).mono grows later
  · intro flight sent lease answered
    obtain ⟨entry, known, decoded⟩ := h.answers flight sent lease answered
    exact ⟨entry, grows known, decoded⟩

theorem Sound.pass (h : w.Sound identity config) (d : Duration) :
    Sound identity config { w with now := w.now + d.nanos } :=
  h.grow h.chronicle h.stored h.version
    (fun entry known => Nat.le_trans (h.past entry known) (Nat.le_add_right _ _))
    (List.Subset.refl _) (Nat.le_add_right _ _)

/-- An attempt that is sent has no answer yet. -/
theorem Sound.send {attempt : Attempt} (h : w.Sound identity config)
    (based : Based identity config w.history w.now i attempt) :
    Sound identity config { w with flights := ⟨i, attempt, none⟩ :: w.flights } := by
  refine ⟨h.chronicle, h.stored, h.version, h.past, h.electors, ?_, ?_⟩
  · exact List.forall_mem_cons.2 ⟨based, h.attempts⟩
  · exact List.forall_mem_cons.2 ⟨fun _ => nofun, h.answers⟩

theorem Sound.attempt (h : w.Sound identity config) {clock : Timestamp} (valid : clock.IsValid) :
    (w.attempt i clock).Sound identity config := by
  unfold Contest.attempt
  split
  · exact h.send (.reading valid)
  · exact h

/-! ### The server serves a request -/

/-- A stored lease continues the history. -/
theorem historyAfter_store (w : Contest ι) (i : ι) (lease : Lease) :
    w.historyAfter i (w.server.store (some lease.toJson)) =
      ⟨w.now, w.server.version + 1, some i,
        LeaseServer.setVersion (w.server.version + 1) lease.toJson⟩ :: w.history := by
  simp [historyAfter, LeaseServer.store]

theorem historyAfter_self (w : Contest ι) (i : ι) : w.historyAfter i w.server = w.history := by
  unfold historyAfter
  split <;> simp

/-- A stored lease becomes the latest entry, which is all that has to be known of it here. -/
theorem Sound.continue {lease : Lease} (h : w.Sound identity config)
    (chronicle : Chronicle identity config
      (w.historyAfter i (w.server.store (some lease.toJson)))) :
    Sound identity config { w with
      server := w.server.store (some lease.toJson)
      history := w.historyAfter i (w.server.store (some lease.toJson)) } := by
  rw [historyAfter_store] at chronicle ⊢
  refine h.grow chronicle rfl ?_ ?_ (List.subset_cons_self _ _) (Nat.le_refl _)
  · exact List.forall_mem_cons.2 ⟨Nat.le_refl _,
      fun entry known => Nat.le_succ_of_le (h.version entry known)⟩
  · exact List.forall_mem_cons.2 ⟨Nat.le_refl _, h.past⟩

/-- A write that the server lets through is one over the latest entry: the entry that was decided
on names the version that the server has compared. -/
theorem Sound.latest_of_current {entry : Entry ι} {lease : Lease} {stored : Json}
    (h : w.Sound identity config) (known : entry ∈ w.history)
    (decision : Decision identity config w.history w.now i entry lease)
    (found : w.server.stored = some stored)
    (current : lease.metadata.resourceVersion.map Json.str == LeaseServer.versionOf stored) :
    ∃ back, w.history = entry :: back := by
  rw [h.stored] at found
  obtain ⟨latest, is_head, rfl⟩ := Option.map_eq_some_iff.1 found
  have latest_known : latest ∈ w.history := List.mem_of_mem_head? is_head
  obtain ⟨read, decoded, metadata_eq⟩ := decision.metadata
  have compared : lease.metadata.resourceVersion = some (toString latest.version) :=
    LeaseServer.eq_of_current current (h.chronicle.named latest latest_known)
  have decided : read.metadata.resourceVersion = some (toString entry.version) :=
    LeaseServer.resourceVersion_of_read? decoded (h.chronicle.named entry known)
  rw [metadata_eq, decided] at compared
  obtain rfl := h.chronicle.eq_of_version known latest_known (Option.some.inj compared)
  exact List.head?_eq_some_iff.1 is_head

/-- A lease is created only in an empty store, and replaced only by a write over the latest
entry. -/
theorem Sound.store {attempt : Attempt} {server : LeaseServer} (h : w.Sound identity config)
    (based : Based identity config w.history w.now i attempt)
    (stores : LeaseServer.Stores w.server attempt.request server) :
    Sound identity config { w with server := server, history := w.historyAfter i server } := by
  cases based with
  | reading valid =>
      cases stores
      rw [historyAfter_self]
      exact h
  | creating valid written =>
      cases stores with
      | nothing =>
          rw [historyAfter_self]
          exact h
      | created lease vacant =>
          refine h.continue ?_
          have first : w.history = [] := by simpa [vacant] using h.stored.symm
          rw [historyAfter_store, first]
          exact .created valid written
  | @replacing record lease entry own known decision =>
      cases stores with
      | nothing =>
          rw [historyAfter_self]
          exact h
      | @replaced _ stored found current =>
          refine h.continue ?_
          obtain ⟨back, history_eq⟩ := h.latest_of_current known decision found current
          have chronicle := h.chronicle
          rw [history_eq] at chronicle decision
          rw [historyAfter_store, history_eq]
          exact .replaced chronicle (h.past entry known)
            (Nat.lt_succ_of_le (h.version entry known)) decision

theorem Sound.answered {flight : Flight ι} {answer : Answer} (h : w.Sound identity config)
    (sent : flight ∈ w.flights) (n : Nat)
    (shown : ∀ lease, answer = .read (.ok (some lease)) →
      ∃ entry ∈ w.history, entry.lease? = some lease) :
    Sound identity config
      { w with flights := w.flights.set n { flight with answer := some answer } } := by
  refine ⟨h.chronicle, h.stored, h.version, h.past, h.electors, ?_, ?_⟩
  · intro other is_other
    rcases List.mem_or_eq_of_mem_set is_other with is_other | rfl
    · exact h.attempts other is_other
    · exact h.attempts flight sent
  · intro other is_other
    rcases List.mem_or_eq_of_mem_set is_other with is_other | rfl
    · exact h.answers other is_other
    · exact fun lease same => shown lease (Option.some.inj same)

theorem subset_historyAfter (w : Contest ι) (i : ι) (server : LeaseServer) :
    w.history ⊆ w.historyAfter i server := by
  unfold historyAfter
  split
  · split
    · exact List.Subset.refl _
    · exact List.subset_cons_self _ _
  · exact List.Subset.refl _

theorem Sound.serve (h : w.Sound identity config) (n : Nat) :
    (w.serve n).Sound identity config := by
  unfold Contest.serve
  split
  case h_2 => exact h
  case h_1 i attempt is_nth =>
    have sent := List.mem_of_getElem? is_nth
    have stored := h.store (h.attempts _ sent) (LeaseServer.stores_respond _ _)
    refine stored.answered sent n ?_
    intro lease answered
    obtain ⟨json, found, decoded⟩ := LeaseServer.stored_of_answer answered
    rw [h.stored] at found
    obtain ⟨entry, is_head, rfl⟩ := Option.map_eq_some_iff.1 found
    exact ⟨entry, subset_historyAfter _ _ _ (List.mem_of_mem_head? is_head), decoded⟩

/-! ### An answer arrives -/

/-- What is remembered was remembered before or is seen now. -/
theorem traced_remember {own : String} {elector : Elector} {record : Record} {now : Instant}
    (memory : ∀ seen, elector.observed = some seen → Traced history own seen)
    (new : Traced history own ⟨record, now⟩) :
    Traced history own (elector.remember record now) := by
  unfold Elector.remember
  split
  case h_1 seen is_seen =>
    split
    · exact memory seen is_seen
    · exact new
  case h_2 => exact new

theorem Knows.observe {elector elector' : Elector} {record : Record} {now : Instant}
    {expired : Bool} (h : Knows identity config history i elector)
    (new : Traced history (identity i) ⟨record, now⟩)
    (observed : elector.observe record now = .ok (expired, elector')) :
    Knows identity config history i elector' := by
  obtain ⟨-, -, rfl⟩ := Elector.observe_eq_ok_iff.1 observed
  refine ⟨h.same_identity, h.same_config, ?_⟩
  rintro seen ⟨⟩
  exact traced_remember h.memory new

/-- A record that an entry has is traced to it from now on. -/
theorem traced_of_read {entry : Entry ι} {lease : Lease} {current : Record} {own : String}
    {now : Instant} (known : entry ∈ history) (before : entry.storedAt ≤ now)
    (decoded : entry.lease? = some lease) (readable : Record.ofLease? lease = some current) :
    Traced history own ⟨current, now⟩ := by
  refine .inr ⟨entry, known, ?_, before⟩
  rw [Entry.record?, decoded]
  exact readable

/-- An elector that takes note of the record of a lease it was shown. -/
theorem Knows.reads {elector elector' : Elector} {lease : Lease} {current : Record}
    {now : Instant} {expired : Bool} (h : Knows identity config history i elector)
    (past : ∀ entry ∈ history, entry.storedAt ≤ now)
    (shown : ∃ entry ∈ history, entry.lease? = some lease)
    (readable : Record.ofLease? lease = some current)
    (observed : elector.observe current now = .ok (expired, elector')) :
    Knows identity config history i elector' := by
  obtain ⟨entry, known, decoded⟩ := shown
  exact h.observe (traced_of_read known (past entry known) decoded readable) observed

/-- A record that was remembered for the lease duration has been stored for that long. -/
theorem Knows.decision {elector elector' : Elector} {entry : Entry ι} {lease lease' : Lease}
    {current next : Record} {clock : Timestamp} {expired : Bool} {now : Instant}
    (h : Knows identity config history i elector) (known : entry ∈ history)
    (before : entry.storedAt ≤ now) (decoded : entry.lease? = some lease)
    (readable : Record.ofLease? lease = some current) (valid : clock.IsValid)
    (observed : elector.observe current now = .ok (expired, elector'))
    (due : current.next? elector.identity clock elector.config.leaseDuration expired =
      .ok (some next))
    (written : Elector.renewedLease? lease next = some lease') :
    Decision identity config history now i entry lease' := by
  obtain ⟨-, expired_eq, -⟩ := Elector.observe_eq_ok_iff.1 observed
  rw [h.same_config] at due expired_eq
  rw [h.same_identity] at due
  refine .intro decoded readable valid due written ?_
  intro is_expired other
  have stood := of_decide_eq_true (expired_eq.symm.trans is_expired)
  have traced := traced_remember h.memory (traced_of_read known before decoded readable)
  rcases traced with own | ⟨seen, known, same, since⟩
  · rw [Elector.remember_record] at own
    exact absurd own other
  · rw [Elector.remember_record] at same
    exact ⟨seen, known, same, Nat.le_trans (Nat.add_le_add_right since _) stood⟩

/-- The attempt of an elector goes on from what the elector knows. -/
theorem Knows.advance {elector elector' : Elector} {attempt : Attempt} {answer : Answer}
    {progress : Progress} {now : Instant} (h : Knows identity config history i elector)
    (based : Based identity config history now i attempt)
    (past : ∀ entry ∈ history, entry.storedAt ≤ now)
    (shown : ∀ lease, answer = .read (.ok (some lease)) →
      ∃ entry ∈ history, entry.lease? = some lease)
    (advances : elector.Advances now attempt answer elector' progress) :
    Knows identity config history i elector' ∧
      ∀ attempt', progress = .waiting attempt' →
        Based identity config history now i attempt' := by
  cases advances with
  | unread => exact ⟨h, by simp⟩
  | uncreated => exact ⟨h, by simp⟩
  | unclear => exact ⟨h, by simp⟩
  | unwritten => exact ⟨h, by simp⟩
  | create clock lease written =>
      cases based with
      | reading valid =>
          refine ⟨h, ?_⟩
          rintro _ ⟨⟩
          have written' : (candidate identity config i).newLease?
              (Record.first (identity i) clock (config i).leaseDuration) = some lease := by
            rw [h.same_identity, h.same_config] at written
            rw [← written, Elector.newLease?, Elector.newLease?, h.same_config]
            rfl
          rw [h.same_identity, h.same_config]
          exact .creating valid written'
  | respect clock lease readable observed =>
      exact ⟨h.reads past (shown lease rfl) readable observed, by simp⟩
  | unreplaced clock lease readable observed =>
      exact ⟨h.reads past (shown lease rfl) readable observed, by simp⟩
  | replace clock lease readable observed due written =>
      cases based with
      | reading valid =>
          refine ⟨h.reads past (shown lease rfl) readable observed, ?_⟩
          rintro _ ⟨⟩
          obtain ⟨entry, known, decoded⟩ := shown lease rfl
          have own := (Record.holder_of_next? due).trans h.same_identity
          have decision :=
            h.decision known (past entry known) decoded readable valid observed due written
          exact .replacing own known decision
  | written write observed =>
      refine ⟨h.observe (.inl ?_) observed, by simp⟩
      rcases write with rfl | rfl
      · cases based
        rfl
      · cases based
        assumption
  | stray =>
      refine ⟨h, ?_⟩
      rintro _ ⟨⟩
      exact based

variable [DecidableEq ι]

theorem Sound.update {elector : Option Elector} (h : w.Sound identity config)
    (knows : ∀ e, elector = some e → Knows identity config w.history i e) :
    Sound identity config { w with electors := Function.update w.electors i elector } := by
  refine ⟨h.chronicle, h.stored, h.version, h.past, ?_, h.attempts, h.answers⟩
  intro j e is_elector
  replace is_elector : Function.update w.electors i elector j = some e := is_elector
  by_cases same : j = i
  · subst same
    rw [Function.update_self] at is_elector
    exact knows e is_elector
  · rw [Function.update_of_ne same] at is_elector
    exact h.electors j e is_elector

theorem Sound.take {attempt : Attempt} {answer : Answer} (h : w.Sound identity config)
    (based : Based identity config w.history w.now i attempt)
    (shown : ∀ lease, answer = .read (.ok (some lease)) →
      ∃ entry ∈ w.history, entry.lease? = some lease) :
    (w.take i attempt answer).Sound identity config := by
  unfold Contest.take
  split
  case h_1 => exact h
  case h_2 elector is_elector =>
    have knows := h.electors i elector is_elector
    split
    case h_1 => exact h.update fun _ => nofun
    case h_2 elector' result advanced =>
      have goes_on := knows.advance based h.past shown (Elector.advances_of_advance advanced)
      refine h.update ?_
      rintro _ ⟨⟩
      exact goes_on.1
    case h_3 elector' attempt' advanced =>
      have goes_on := knows.advance based h.past shown (Elector.advances_of_advance advanced)
      refine Sound.send (h.update ?_) (goes_on.2 attempt' rfl)
      rintro _ ⟨⟩
      exact goes_on.1

theorem Sound.deliver (h : w.Sound identity config) (n : Nat) :
    (w.deliver n).Sound identity config := by
  unfold Contest.deliver
  split
  case h_2 => exact h
  case h_1 i attempt answer is_nth =>
    have sent := List.mem_of_getElem? is_nth
    have rest : Sound identity config { w with flights := w.flights.eraseIdx n } :=
      ⟨h.chronicle, h.stored, h.version, h.past, h.electors,
        fun flight other => h.attempts flight (List.mem_of_mem_eraseIdx other),
        fun flight other => h.answers flight (List.mem_of_mem_eraseIdx other)⟩
    exact rest.take (h.attempts _ sent)
      fun lease same => h.answers _ sent lease (congrArg some same)

theorem Sound.step (h : w.Sound identity config) (move : Move ι) :
    (w.step move).Sound identity config := by
  cases move with
  | pass d => exact h.pass d
  | attempt i clock => exact h.attempt clock.2
  | serve n => exact h.serve n
  | deliver n => exact h.deliver n

theorem Sound.run (h : w.Sound identity config) (moves : List (Move ι)) :
    (w.run moves).Sound identity config := by
  induction moves generalizing w with
  | nil => exact h
  | cons move moves ih => exact ih (h.step move)

omit [DecidableEq ι] in
theorem sound_begin (identity : ι → String) (config : ι → Config)
    (lease : Option { j : Json // j.Ordered }) (now : Instant) :
    (begin identity config lease now).Sound identity config := by
  have knows : ∀ history i elector, some (candidate identity config i) = some elector →
      Knows identity config history i elector := by
    rintro history i _ ⟨⟩
    exact ⟨rfl, rfl, fun _ => nofun⟩
  cases lease with
  | none => exact ⟨.empty, rfl, fun _ => nofun, fun _ => nofun, knows _, fun _ => nofun,
      fun _ => nofun⟩
  | some lease =>
      refine ⟨.found ?_, rfl, ?_, ?_, knows _, fun _ => nofun, fun _ => nofun⟩
      · exact LeaseServer.versionOf_setVersion (LeaseServer.tidy_of_ordered lease.2)
      · exact List.forall_mem_singleton.2 (Nat.le_refl _)
      · exact List.forall_mem_singleton.2 (Nat.le_refl _)

/-- Whatever happens, in whatever order, the history is a chronicle. -/
theorem chronicle_run (identity : ι → String) (config : ι → Config)
    (lease : Option { j : Json // j.Ordered }) (now : Instant) (moves : List (Move ι)) :
    Chronicle identity config ((begin identity config lease now).run moves).history :=
  ((sound_begin identity config lease now).run moves).chronicle

/-- No lease of another holder is taken over before it has stood unchanged in the store for the
lease duration, as long as no two writes carry the same renew time. -/
theorem no_premature_takeover (identity : ι → String) (config : ι → Config)
    (lease : Option { j : Json // j.Ordered }) (now : Instant) (moves : List (Move ι))
    (distinct :
      (((begin identity config lease now).run moves).history.map Entry.renewTime?).Nodup) :
    ((begin identity config lease now).run moves).history.IsChain
      (Entry.Respects identity config) :=
  (chronicle_run identity config lease now moves).respects distinct

def pair (i : Bool) : String := if i then "first" else "second"

def shared : Config where
  enabled := true
  resourceName := "manager-leader"
  resourceNamespace := "default"

/-- The first elector creates the lease. The second one sees it, waits for the lease duration and
takes it over. -/
def takeover : List (Move Bool) :=
  [.attempt true ⟨⟨0, 0⟩, by decide, by decide, by decide⟩, .serve 0, .deliver 0,
    .serve 0, .deliver 0,
    .attempt false ⟨⟨1, 0⟩, by decide, by decide, by decide⟩, .serve 0, .deliver 0,
    .pass shared.leaseDuration,
    .attempt false ⟨⟨16, 0⟩, by decide, by decide, by decide⟩, .serve 0, .deliver 0,
    .serve 0, .deliver 0]

theorem no_premature_takeover_pair :
    ((begin pair (fun _ => shared) none 0).run takeover).history.map Entry.writer =
        [some false, some true] ∧
      ((begin pair (fun _ => shared) none 0).run takeover).history.IsChain
        (Entry.Respects pair fun _ => shared) :=
  ⟨by decide +kernel, no_premature_takeover pair (fun _ => shared) none 0 takeover
    (by decide +kernel)⟩

/-- A lease without a holder, which has had others before. -/
def vacant : String :=
  "\x7b\"spec\":\x7b\"leaseTransitions\":4\x7d,\"metadata\":\x7b\"name\":\"manager-leader\"\x7d\x7d"

end Contest

end GatedManager.Election
