import GatedManager.Gates.Following
import GatedManager.Proofs.Text.NameSet

/-!
# The history of the gates

An accessor looks at the cluster again and again. A look either leaves everything as it is or
publishes the snapshot for the version that counts, and it records a change exactly when the gates
are others than before. The changes that were recorded follow one another without a gap, so they
lead from the gates that were published first to those that hold now.
-/

namespace GatedManager.Gates

open Api (ClusterVersion FeatureGate GateDetails)
open Text (NameSet)

/-! ### One call -/

namespace Access

variable {a : Access} {clusterVersion : Option ClusterVersion} {featureGate : Option FeatureGate}

/-- Whether an answer says that a snapshot was published. -/
def publishes : Except GateError SyncOutcome → Bool
  | .ok .pending => false
  | .ok _ => true
  | .error _ => false

/-- A call leaves the accessor alone while something is not there, or publishes the gates for the
version that counts. -/
theorem sync_cases (a : Access) (clusterVersion : Option ClusterVersion)
    (featureGate : Option FeatureGate) :
    (a.sync clusterVersion featureGate = (.ok .pending, a) ∧
      (a.effectiveVersion? clusterVersion = none ∨ featureGate = none)) ∨
    (∃ version gate, a.effectiveVersion? clusterVersion = some version ∧
      featureGate = some gate ∧ FeatureGate.detailsFor? gate version = none ∧
      a.sync clusterVersion featureGate = (.error (.missingVersion version), a)) ∨
    ∃ version gate details, a.effectiveVersion? clusterVersion = some version ∧
      featureGate = some gate ∧ FeatureGate.detailsFor? gate version = some details ∧
      a.sync clusterVersion featureGate =
        (.ok (a.publish (.ofDetails details)).1, (a.publish (.ofDetails details)).2) := by
  cases counts : a.effectiveVersion? clusterVersion with
  | none => exact .inl ⟨by simp only [sync, counts], .inl rfl⟩
  | some version =>
      cases featureGate with
      | none => exact .inl ⟨by simp only [sync, counts], .inr rfl⟩
      | some gate =>
          refine .inr ?_
          cases listed : FeatureGate.detailsFor? gate version with
          | none =>
              exact .inl ⟨version, gate, rfl, rfl, listed, by simp only [sync, counts, listed]⟩
          | some details =>
              exact .inr ⟨version, gate, details, rfl, rfl, listed, by
                simp only [sync, counts, listed]⟩

theorem publishes_publish (s : Snapshot) : publishes (.ok (a.publish s).1) = true := by
  unfold publish
  cases a.current with
  | none => rfl
  | some previous =>
      dsimp only
      split <;> rfl

/-- A second call with the same objects changes nothing more. -/
theorem sync_again : ((a.sync clusterVersion featureGate).2.sync clusterVersion featureGate).2 =
    (a.sync clusterVersion featureGate).2 := by
  rcases a.sync_cases clusterVersion featureGate with
    ⟨called, -⟩ | ⟨version, gate, -, -, -, called⟩ |
      ⟨version, gate, details, counts, there, listed, called⟩
  · rw [called, called]
  · rw [called, called]
  · have counts' : (a.publish (.ofDetails details)).2.effectiveVersion? clusterVersion =
        some version := counts
    rw [called]
    simp only [sync, counts', there, listed]
    rfl

end Access

/-! ### Sequences of looks -/

/-- What there is to see in the cluster. -/
structure Sight where
  clusterVersion : Option ClusterVersion
  featureGate : Option FeatureGate

namespace Sight

/-- The version that counts: the version `own` of the process, or the one that the cluster should
run where `own` is `missing`. -/
def version? (own missing : String) (sight : Sight) : Option String :=
  if own = missing then sight.clusterVersion.bind ClusterVersion.desiredVersion? else some own

/-- Whether the gates have an entry for a version. -/
def Lists (sight : Sight) (version : String) : Prop :=
  ∃ gate status, sight.featureGate = some gate ∧ gate.status = some status ∧
    ∃ details ∈ status.featureGates, details.version = version

theorem detailsFor?_isSome_iff {sight : Sight} {gate : FeatureGate} {version : String}
    (there : sight.featureGate = some gate) :
    (FeatureGate.detailsFor? gate version).isSome = true ↔ sight.Lists version := by
  simp [FeatureGate.detailsFor?, Lists, there, Option.isSome_bind, Option.any_eq_true]

end Sight

/-- A look at the cluster by an accessor that has come to a certain state. -/
structure Look where
  sight : Sight
  before : Following

namespace Look

def answer (l : Look) : Except GateError SyncOutcome :=
  (l.before.access.sync l.sight.clusterVersion l.sight.featureGate).1

def after (l : Look) : Following := l.before.look l.sight.clusterVersion l.sight.featureGate

/-- Whether the look has led to a snapshot. -/
def publishes (l : Look) : Bool := Access.publishes l.answer

/-- The snapshot that the look has led to. -/
def published? (l : Look) : Option Snapshot :=
  if l.publishes then l.after.access.current else none

end Look

namespace Following

@[simp] theorem access_wake (f : Following) : f.wake.access = f.access := by
  unfold wake
  split <;> rfl

/-- An accessor that has not looked yet. -/
def fresh (desiredVersion missingVersion : String) : Following :=
  { access := { desiredVersion, missingVersion } }

/-- One look after the other, the first one first. -/
def journal (f : Following) : List Sight → List Look
  | [] => []
  | sight :: rest => ⟨sight, f⟩ :: (Look.after ⟨sight, f⟩).journal rest

/-- The state after all the looks. -/
def afterAll (f : Following) (sights : List Sight) : Following :=
  sights.foldl (fun f sight => Look.after ⟨sight, f⟩) f

end Following

/-! ### What one look does -/

namespace Look

variable {l : Look}

/-- What a look leaves alone. -/
structure Silent (l : Look) : Prop where
  answer : l.answer = .ok .pending ∨ ∃ version, l.answer = .error (.missingVersion version)
  access : l.after.access = l.before.access
  changes : l.after.changes = l.before.changes

/-- The snapshot of a look is that of the first entry for the version that counts: the version
`own` of the process, or the one that the cluster should run where `own` is `missing`. -/
def ShowsFirstEntry (own missing : String) (l : Look) (s : Snapshot) : Prop :=
  ∃ version gate status earlier details later,
    (if own = missing then l.sight.clusterVersion.bind ClusterVersion.desiredVersion?
      else some own) = some version ∧
    l.sight.featureGate = some gate ∧ gate.status = some status ∧
    status.featureGates = earlier ++ details :: later ∧
    (∀ d ∈ earlier, d.version ≠ version) ∧ details.version = version ∧
    s = .ofDetails details

/-- What a look does that publishes `s`. -/
structure Publishing (l : Look) (s : Snapshot) : Prop where
  publishes : l.publishes = true
  entry : l.ShowsFirstEntry l.before.access.desiredVersion l.before.access.missingVersion s
  current : l.after.access.current = some s
  first : l.before.access.current = none →
    l.answer = .ok .initialized ∧ l.after.changes = l.before.changes
  same : ∀ previous, l.before.access.current = some previous → previous.sameGates s = true →
    l.answer = .ok .unchanged ∧ l.after.changes = l.before.changes
  other : ∀ previous, l.before.access.current = some previous → previous.sameGates s = false →
    l.answer = .ok (.changed ⟨previous, s⟩) ∧ l.after.changes = l.before.changes ++ [⟨previous, s⟩]

theorem detailsFor?_eq_some {gate : FeatureGate} {version : String} {details : GateDetails}
    (h : FeatureGate.detailsFor? gate version = some details) :
    ∃ status earlier later, gate.status = some status ∧
      status.featureGates = earlier ++ details :: later ∧
      (∀ d ∈ earlier, d.version ≠ version) ∧ details.version = version := by
  obtain ⟨status, reported, listed⟩ := Option.bind_eq_some_iff.1 h
  obtain ⟨hit, earlier, later, split_, missed⟩ := List.find?_eq_some_iff_append.1 listed
  refine ⟨status, earlier, later, reported, split_, fun d hd => ?_, of_decide_eq_true hit⟩
  simpa using missed d hd

theorem silent_of_sync {answer : Except GateError SyncOutcome}
    (called : l.before.access.sync l.sight.clusterVersion l.sight.featureGate =
      (answer, l.before.access))
    (quiet : answer = .ok .pending ∨ ∃ version, answer = .error (.missingVersion version)) :
    l.Silent := by
  refine ⟨?_, ?_, ?_⟩
  · rwa [Look.answer, called]
  · rw [after, Following.look, called]
  · rw [after, Following.look, called]
    rcases quiet with rfl | ⟨version, rfl⟩ <;> rfl

/-- Every look is of one of the two kinds. -/
theorem silent_or_publishing (l : Look) : l.Silent ∨ ∃ s, l.Publishing s := by
  rcases l.before.access.sync_cases l.sight.clusterVersion l.sight.featureGate with
    ⟨called, -⟩ | ⟨version, gate, -, -, -, called⟩ |
      ⟨version, gate, details, counts, there, listed, called⟩
  · exact .inl (silent_of_sync called (.inl rfl))
  · exact .inl (silent_of_sync called (.inr ⟨version, rfl⟩))
  · obtain ⟨status, earlier, later, reported, split_, missed, hit⟩ := detailsFor?_eq_some listed
    refine .inr ⟨.ofDetails details, ?_, ?_, ?_, ?_, ?_, ?_⟩
    · rw [publishes, Look.answer, called]
      exact Access.publishes_publish _
    · exact ⟨version, gate, status, earlier, details, later, counts, there, reported, split_,
        missed, hit, rfl⟩
    · rw [after, Following.look, called]
      rfl
    · intro none_
      rw [Look.answer, after, Following.look, called]
      simp [Access.publish, none_]
    · intro previous some_ same
      rw [Look.answer, after, Following.look, called]
      simp [Access.publish, some_, same]
    · intro previous some_ other
      rw [Look.answer, after, Following.look, called]
      simp [Access.publish, some_, other]

/-- The version that counts for a look. -/
def version? (l : Look) : Option String :=
  l.sight.version? l.before.access.desiredVersion l.before.access.missingVersion

/-- What a look answers, by what it finds. -/
theorem answer_cases (l : Look) :
    (l.answer = .ok .pending ∧ (l.version? = none ∨ l.sight.featureGate = none)) ∨
    (∃ version, l.answer = .error (.missingVersion version) ∧ l.version? = some version ∧
      l.sight.featureGate.isSome = true ∧ ¬l.sight.Lists version) ∨
    ∃ version, l.publishes = true ∧ l.version? = some version ∧ l.sight.Lists version := by
  rcases l.before.access.sync_cases l.sight.clusterVersion l.sight.featureGate with
    ⟨called, absent⟩ | ⟨version, gate, counts, there, unlisted, called⟩ |
      ⟨version, gate, details, counts, there, listed, called⟩
  · exact .inl ⟨congrArg Prod.fst called, absent⟩
  · refine .inr (.inl ⟨version, congrArg Prod.fst called, counts, by simp [there], ?_⟩)
    rw [← Sight.detailsFor?_isSome_iff there, unlisted]
    exact Bool.false_ne_true
  · refine .inr (.inr ⟨version, ?_, counts, (Sight.detailsFor?_isSome_iff there).1 ?_⟩)
    · rw [publishes, Look.answer, called]
      exact Access.publishes_publish _
    · rw [listed]
      rfl

/-- A look that publishes found the gates listed for the version that counts. -/
theorem publishes_iff :
    l.publishes = true ↔ ∃ version, l.version? = some version ∧ l.sight.Lists version := by
  rcases l.answer_cases with ⟨told, absent⟩ | ⟨version, told, counts, -, unlisted⟩ |
    ⟨version, publishes, counts, lists⟩
  · refine iff_of_false (by simp [publishes, told, Access.publishes]) ?_
    rintro ⟨version, counts, gate, status, there, -⟩
    simp [counts, there] at absent
  · refine iff_of_false (by simp [publishes, told, Access.publishes]) ?_
    rintro ⟨version', counts', lists⟩
    obtain rfl := Option.some.inj (counts.symm.trans counts')
    exact unlisted lists
  · exact iff_of_true publishes ⟨version, counts, lists⟩

theorem pending_iff :
    l.answer = .ok .pending ↔ l.version? = none ∨ l.sight.featureGate = none := by
  rcases l.answer_cases with ⟨told, absent⟩ | ⟨version, told, counts, there, -⟩ |
    ⟨version, publishes, counts, gate, status, there, -⟩
  · exact iff_of_true told absent
  · refine iff_of_false (by simp [told]) ?_
    rintro (none_ | none_)
    · simp [none_] at counts
    · simp [none_] at there
  · refine iff_of_false ?_ (by simp [counts, there])
    intro told
    simp [Look.publishes, told, Access.publishes] at publishes

theorem missingVersion_iff {version : String} :
    l.answer = .error (.missingVersion version) ↔ l.version? = some version ∧
      l.sight.featureGate.isSome = true ∧ ¬l.sight.Lists version := by
  rcases l.answer_cases with ⟨told, absent⟩ | ⟨version', told, counts, there, unlisted⟩ |
    ⟨version', publishes, counts, lists⟩
  · refine iff_of_false (by simp [told]) ?_
    rintro ⟨counts, there, -⟩
    rcases absent with none_ | none_
    · simp [none_] at counts
    · simp [none_] at there
  · rw [told, counts]
    constructor
    · rintro ⟨⟩
      exact ⟨rfl, there, unlisted⟩
    · rintro ⟨⟨⟩, -⟩
      rfl
  · refine iff_of_false ?_ ?_
    · intro told
      simp [Look.publishes, told, Access.publishes] at publishes
    · rintro ⟨counts', -, unlisted⟩
      obtain rfl := Option.some.inj (counts.symm.trans counts')
      exact unlisted lists

theorem Silent.publishes (h : l.Silent) : l.publishes = false := by
  rw [Look.publishes]
  rcases h.answer with eq | ⟨version, eq⟩ <;> rw [eq] <;> rfl

theorem Silent.published? (h : l.Silent) : l.published? = none := by
  rw [Look.published?, h.publishes]
  rfl

theorem Publishing.published? {s : Snapshot} (h : l.Publishing s) : l.published? = some s := by
  rw [Look.published?, h.publishes, if_pos rfl, h.current]

theorem silent_of_publishes (h : l.publishes = false) : l.Silent := by
  rcases l.silent_or_publishing with silent | ⟨s, publishing⟩
  · exact silent
  · exact absurd (publishing.publishes.symm.trans h) (by decide)

theorem publishing_of_publishes (h : l.publishes = true) : ∃ s, l.Publishing s := by
  rcases l.silent_or_publishing with silent | publishing
  · exact absurd (silent.publishes.symm.trans h) (by decide)
  · exact publishing

/-- A look that publishes says that it is the first one exactly when nothing was known before. -/
theorem Publishing.initialized_iff {s : Snapshot} (h : l.Publishing s) :
    l.answer = .ok .initialized ↔ l.before.access.current = none := by
  constructor
  · intro told
    cases known : l.before.access.current with
    | none => rfl
    | some previous =>
        cases same : previous.sameGates s with
        | true => simp [(h.same previous known same).1] at told
        | false => simp [(h.other previous known same).1] at told
  · exact fun unknown => (h.first unknown).1

/-- What is known after a look is what it has published, else what was known before. -/
theorem current_after (l : Look) :
    l.after.access.current = l.published?.or l.before.access.current := by
  rcases l.silent_or_publishing with silent | ⟨s, publishing⟩
  · rw [silent.access, silent.published?, Option.none_or]
  · rw [publishing.current, publishing.published?, Option.some_or]

theorem versions_after (l : Look) :
    l.after.access.desiredVersion = l.before.access.desiredVersion ∧
      l.after.access.missingVersion = l.before.access.missingVersion := by
  rw [after, Following.look]
  rcases l.before.access.sync_cases l.sight.clusterVersion l.sight.featureGate with
    ⟨called, -⟩ | ⟨_, _, -, -, -, called⟩ | ⟨_, _, _, -, -, -, called⟩
  all_goals
    rw [called]
    exact ⟨rfl, rfl⟩

theorem isObserved_after (known : l.before.access.isObserved) : l.after.access.isObserved := by
  rw [Access.isObserved, current_after]
  cases l.published? with
  | none => exact known
  | some s => rfl

end Look

/-! ### What a sequence of looks does -/

namespace Following

variable {f : Following} {sights : List Sight}

/-- What is known in the end is what was published last, else what was known at first. -/
theorem current_afterAll :
    (f.afterAll sights).access.current =
      ((f.journal sights).filterMap Look.published?).getLast?.or f.access.current := by
  induction sights generalizing f with
  | nil => rfl
  | cons sight rest ih =>
      rw [afterAll, List.foldl_cons, ← afterAll, ih, Look.current_after, journal,
        List.filterMap_cons]
      cases (Look.mk sight f).published? with
      | none => rfl
      | some s => rw [List.getLast?_cons, Option.some_or, Option.or_some]; simp

/-- A look of the journal comes after the looks before it. -/
theorem journal_eq_append {earlier later : List Look} {l : Look}
    (h : f.journal sights = earlier ++ l :: later) :
    ∃ before after, sights = before ++ l.sight :: after ∧ earlier = f.journal before ∧
      l.before = f.afterAll before ∧ later = l.after.journal after := by
  induction sights generalizing f earlier with
  | nil => simp [journal] at h
  | cons sight rest ih =>
      cases earlier with
      | nil =>
          obtain ⟨rfl, rfl⟩ := List.cons.inj h
          exact ⟨[], rest, rfl, rfl, rfl, rfl⟩
      | cons first earlier =>
          obtain ⟨rfl, rest_eq⟩ := List.cons.inj h
          obtain ⟨before, after, rfl, rfl, here, rfl⟩ := ih rest_eq
          exact ⟨sight :: before, after, rfl, rfl, here, rfl⟩

theorem versions_journal {l : Look} (h : l ∈ f.journal sights) :
    l.before.access.desiredVersion = f.access.desiredVersion ∧
      l.before.access.missingVersion = f.access.missingVersion := by
  induction sights generalizing f with
  | nil => cases h
  | cons sight rest ih =>
      rcases List.mem_cons.1 h with rfl | h
      · exact ⟨rfl, rfl⟩
      · have before := Look.versions_after ⟨sight, f⟩
        exact ⟨(ih h).1.trans before.1, (ih h).2.trans before.2⟩

theorem version?_journal {l : Look} (h : l ∈ f.journal sights) :
    l.version? = l.sight.version? f.access.desiredVersion f.access.missingVersion := by
  obtain ⟨own, missing⟩ := versions_journal h
  rw [Look.version?, own, missing]

theorem isObserved_journal {l : Look} (known : f.access.isObserved) (h : l ∈ f.journal sights) :
    l.after.access.isObserved := by
  induction sights generalizing f with
  | nil => cases h
  | cons sight rest ih =>
      rcases List.mem_cons.1 h with rfl | h
      · exact Look.isObserved_after known
      · exact ih (Look.isObserved_after (l := ⟨sight, f⟩) known) h

end Following

/-! ### The recorded changes -/

/-- Changes that lead from the gates of one snapshot to those of another one: each begins with the
gates that the one before it has led to. -/
inductive Linked : Snapshot → List Change → Snapshot → Prop
  | nil {s t : Snapshot} (same : s.sameGates t = true) : Linked s [] t
  | cons {s t : Snapshot} {change : Change} {changes : List Change}
      (same : s.sameGates change.previous = true) (rest : Linked change.new changes t) :
      Linked s (change :: changes) t

/-- Takes away the names that each change turned off and adds those that it turned on. -/
def replay (names : NameSet) (changes : List Change) : NameSet :=
  changes.foldl (fun names change => (names.diff change.turnedOff).union change.turnedOn) names

namespace Snapshot

variable {s t : Snapshot}

/-- The names of both sets ascend. -/
def Ascends (s : Snapshot) : Prop := s.enabled.Ascends ∧ s.disabled.Ascends

theorem ascends_ofDetails (details : GateDetails) : (ofDetails details).Ascends :=
  ⟨NameSet.ascends_ofList, NameSet.ascends_ofList⟩

theorem sameGates_iff : s.sameGates t = true ↔ s.enabled = t.enabled ∧ s.disabled = t.disabled := by
  simp [sameGates]

theorem sameGates_self (s : Snapshot) : s.sameGates s = true := sameGates_iff.2 ⟨rfl, rfl⟩

theorem sameGates_trans {u : Snapshot} (h : s.sameGates t = true) (h' : t.sameGates u = true) :
    s.sameGates u = true := by
  rw [sameGates_iff] at *
  exact ⟨h.1.trans h'.1, h.2.trans h'.2⟩

/-- Two snapshots have other gates when some name is enabled, or disabled, in only one of them. -/
def Differ (s t : Snapshot) : Prop :=
  (∃ name, s.enabled.contains name ≠ t.enabled.contains name) ∨
    ∃ name, s.disabled.contains name ≠ t.disabled.contains name

theorem sameGates_eq_false_iff (hs : s.Ascends) (ht : t.Ascends) :
    s.sameGates t = false ↔ s.Differ t := by
  rw [← Bool.not_eq_true, sameGates_iff, hs.1.eq_iff ht.1, hs.2.eq_iff ht.2, Differ,
    not_and_or, not_forall, not_forall]

end Snapshot

theorem Look.Publishing.ascends {l : Look} {s : Snapshot} (h : l.Publishing s) : s.Ascends := by
  obtain ⟨_, _, _, _, details, _, _, _, _, _, _, _, rfl⟩ := h.entry
  exact Snapshot.ascends_ofDetails details

namespace Linked

variable {s t u : Snapshot} {changes : List Change}

theorem trans_same (h : Linked s changes t) (same : t.sameGates u = true) :
    Linked s changes u := by
  induction h with
  | nil same' => exact .nil (Snapshot.sameGates_trans same' same)
  | cons same' rest ih => exact .cons same' (ih same)

theorem snoc (h : Linked s changes t) : Linked s (changes ++ [⟨t, u⟩]) u := by
  induction h with
  | nil same => exact .cons same (.nil (Snapshot.sameGates_self u))
  | cons same rest ih => exact .cons same ih

/-- Changes that follow one another lead from the first enabled names to the last ones. -/
theorem replay_eq (h : Linked s changes t)
    (ascends : ∀ c ∈ changes, c.previous.Ascends ∧ c.new.Ascends) :
    replay s.enabled changes = t.enabled := by
  induction h with
  | nil same => exact (Snapshot.sameGates_iff.1 same).1
  | @cons s t change changes same rest ih =>
      obtain ⟨previous, new⟩ := ascends change List.mem_cons_self
      rw [replay, List.foldl_cons, (Snapshot.sameGates_iff.1 same).1, Change.turnedOff,
        Change.turnedOn, previous.1.patch new.1, ← replay]
      exact ih fun c hc => ascends c (List.mem_cons_of_mem _ hc)

end Linked

/-- The record of the changes since `first` was published leads to what is known now. -/
structure Recorded (first : Snapshot) (f : Following) : Prop where
  linked : ∃ last, f.access.current = some last ∧ last.Ascends ∧ Linked first f.changes last
  ascends : ∀ c ∈ f.changes, c.previous.Ascends ∧ c.new.Ascends

theorem Recorded.look {first : Snapshot} {l : Look} (h : Recorded first l.before) :
    Recorded first l.after := by
  obtain ⟨previous, known, previous_ascends, linked⟩ := h.linked
  rcases l.silent_or_publishing with silent | ⟨s, publishing⟩
  · refine ⟨⟨previous, ?_, previous_ascends, ?_⟩, ?_⟩
    · rw [silent.access, known]
    · rwa [silent.changes]
    · rw [silent.changes]
      exact h.ascends
  · cases same : previous.sameGates s with
    | true =>
        have changes := (publishing.same previous known same).2
        refine ⟨⟨s, publishing.current, publishing.ascends, ?_⟩, ?_⟩
        · rw [changes]
          exact linked.trans_same same
        · rw [changes]
          exact h.ascends
    | false =>
        have changes := (publishing.other previous known same).2
        refine ⟨⟨s, publishing.current, publishing.ascends, ?_⟩, ?_⟩
        · rw [changes]
          exact linked.snoc
        · rw [changes]
          intro c hc
          rcases List.mem_append.1 hc with hc | hc
          · exact h.ascends c hc
          · obtain rfl := List.mem_singleton.1 hc
            exact ⟨previous_ascends, publishing.ascends⟩

theorem Recorded.afterAll {first : Snapshot} {f : Following} {sights : List Sight}
    (h : Recorded first f) : Recorded first (f.afterAll sights) := by
  induction sights generalizing f with
  | nil => exact h
  | cons sight rest ih => exact ih (Recorded.look (l := ⟨sight, f⟩) h)

/-- Once a snapshot was published, the record leads from it to what is known. -/
theorem recorded_of_published {f : Following} {sights : List Sight} {first : Snapshot}
    (unknown : f.access.current = none) (none_handled : f.changes = [])
    (h : ((f.journal sights).filterMap Look.published?).head? = some first) :
    Recorded first (f.afterAll sights) := by
  induction sights generalizing f with
  | nil => cases h
  | cons sight rest ih =>
      rw [Following.journal, List.filterMap_cons] at h
      rcases (Look.mk sight f).silent_or_publishing with silent | ⟨s, publishing⟩
      · rw [silent.published?] at h
        exact ih (silent.access ▸ unknown) (silent.changes.trans none_handled) h
      · rw [publishing.published?] at h
        obtain rfl : s = first := Option.some.inj h
        have changes := (publishing.first unknown).2.trans none_handled
        have recorded : Recorded s (Look.mk sight f).after := by
          refine ⟨⟨s, publishing.current, publishing.ascends, ?_⟩, ?_⟩
          · rw [changes]
            exact .nil (Snapshot.sameGates_self s)
          · rw [changes]
            exact fun c hc => absurd hc List.not_mem_nil
        exact recorded.afterAll

/-! ### The whole history -/

section

variable {desiredVersion missingVersion : String} {sights : List Sight} {earlier later : List Look}
  {l : Look}

/-- What is known before a look is what the looks before it have published last. -/
theorem known_before (h : (Following.fresh desiredVersion missingVersion).journal sights =
    earlier ++ l :: later) :
    l.before.access.current = (earlier.filterMap Look.published?).getLast? := by
  obtain ⟨before, after, -, rfl, here, -⟩ := Following.journal_eq_append h
  rw [here, Following.current_afterAll]
  exact Option.or_none

theorem getLast?_published?_eq_none_iff :
    (earlier.filterMap Look.published?).getLast? = none ↔ ∀ e ∈ earlier, e.publishes = false := by
  rw [List.getLast?_eq_none_iff, List.filterMap_eq_nil_iff]
  refine forall₂_congr fun e _ => ?_
  rcases e.silent_or_publishing with silent | ⟨s, publishing⟩
  · simp [silent.publishes, silent.published?]
  · simp [publishing.publishes, publishing.published?]

theorem published_ascends {s : Snapshot} (h : s ∈ earlier.filterMap Look.published?) :
    s.Ascends := by
  obtain ⟨e, -, published⟩ := List.mem_filterMap.1 h
  rcases e.silent_or_publishing with silent | ⟨t, publishing⟩
  · rw [silent.published?] at published
    cases published
  · rw [publishing.published?] at published
    exact Option.some.inj published ▸ publishing.ascends

end

/-- The history of the gates that an accessor tells is complete and consistent. In each part a look
stands between the looks `earlier` and `later`. -/
structure TellsHistory (f : Following) (sights : List Sight) : Prop where
  /-- A look publishes exactly when the version that counts is known and the gates are listed for
  it. -/
  publishes : ∀ l ∈ f.journal sights, (l.publishes = true ↔
    ∃ version, l.sight.version? f.access.desiredVersion f.access.missingVersion = some version ∧
      l.sight.Lists version)
  /-- It is too early exactly as long as that version is not known or there are no gates. -/
  pending : ∀ l ∈ f.journal sights, (l.answer = .ok .pending ↔
    l.sight.version? f.access.desiredVersion f.access.missingVersion = none ∨
      l.sight.featureGate = none)
  /-- Gates without an entry for the version are an error that names it. -/
  unlisted : ∀ l ∈ f.journal sights, ∀ version, (l.answer = .error (.missingVersion version) ↔
    l.sight.version? f.access.desiredVersion f.access.missingVersion = some version ∧
      l.sight.featureGate.isSome = true ∧ ¬l.sight.Lists version)
  /-- A look that finds nothing changes nothing. -/
  silent : ∀ l ∈ f.journal sights, l.publishes = false → l.Silent
  /-- The first look that publishes says so, and no other one does. -/
  initialized : ∀ earlier l later, f.journal sights = earlier ++ l :: later →
    (l.answer = .ok .initialized ↔
      l.publishes = true ∧ ∀ e ∈ earlier, e.publishes = false)
  /-- The first snapshot is not a change. -/
  unhandled : ∀ l ∈ f.journal sights, l.answer = .ok .initialized →
    l.after.changes = l.before.changes
  /-- What was observed once stays observed. -/
  observed : ∀ earlier l later, f.journal sights = earlier ++ l :: later → l.publishes = true →
    ∀ e ∈ l :: later, e.after.access.isObserved = true
  /-- A look publishes the gates of the first entry for the version that counts. -/
  entry : ∀ l ∈ f.journal sights, l.publishes = true →
    ∃ s, l.after.access.current = some s ∧
      l.ShowsFirstEntry f.access.desiredVersion f.access.missingVersion s
  /-- A later look tells the change from the snapshot just before, exactly if there is one. -/
  changed : ∀ earlier l later, f.journal sights = earlier ++ l :: later → l.publishes = true →
    ∀ previous, (earlier.filterMap Look.published?).getLast? = some previous →
      ∃ new, l.after.access.current = some new ∧
        (previous.Differ new → l.answer = .ok (.changed ⟨previous, new⟩) ∧
          l.after.changes = l.before.changes ++ [⟨previous, new⟩]) ∧
        (¬ previous.Differ new → l.answer = .ok .unchanged ∧
          l.after.changes = l.before.changes)
  /-- The recorded changes lead from the gates that were published first to the current ones. -/
  replayed : ∀ first, ((f.journal sights).filterMap Look.published?).head? = some first →
    ∃ last, (f.afterAll sights).access.current = some last ∧
      Linked first (f.afterAll sights).changes last ∧
      replay first.enabled (f.afterAll sights).changes = last.enabled

/-- Whatever an accessor gets to see, it tells the history of the gates. -/
theorem tells_history (desiredVersion missingVersion : String) (sights : List Sight) :
    TellsHistory (.fresh desiredVersion missingVersion) sights where
  publishes := fun l hl => Following.version?_journal hl ▸ Look.publishes_iff
  pending := fun l hl => Following.version?_journal hl ▸ Look.pending_iff
  unlisted := fun l hl version => Following.version?_journal hl ▸ Look.missingVersion_iff
  silent := fun l _ quiet => Look.silent_of_publishes quiet
  initialized := by
    intro earlier l later h
    have unknown_iff : l.before.access.current = none ↔ ∀ e ∈ earlier, e.publishes = false := by
      rw [known_before h, getLast?_published?_eq_none_iff]
    rcases l.silent_or_publishing with silent | ⟨s, publishing⟩
    · have told : l.answer ≠ .ok .initialized := by
        rcases silent.answer with eq | ⟨version, eq⟩ <;> simp [eq]
      simp [told, silent.publishes]
    · rw [publishing.initialized_iff, unknown_iff]
      simp [publishing.publishes]
  unhandled := by
    intro l _ told
    have publishes : l.publishes = true := by rw [Look.publishes, told]; rfl
    obtain ⟨s, publishing⟩ := Look.publishing_of_publishes publishes
    exact (publishing.first (publishing.initialized_iff.1 told)).2
  observed := by
    intro earlier l later h publishes e he
    obtain ⟨before, after, -, -, -, rfl⟩ := Following.journal_eq_append h
    obtain ⟨s, publishing⟩ := Look.publishing_of_publishes publishes
    have known : l.after.access.isObserved = true := by
      rw [Access.isObserved, publishing.current]
      rfl
    rcases List.mem_cons.1 he with rfl | he
    · exact known
    · exact Following.isObserved_journal known he
  entry := by
    intro l hl publishes
    obtain ⟨s, publishing⟩ := Look.publishing_of_publishes publishes
    obtain ⟨own, missing⟩ := Following.versions_journal hl
    exact ⟨s, publishing.current, own ▸ missing ▸ publishing.entry⟩
  changed := by
    intro earlier l later h publishes previous just_before
    obtain ⟨new, publishing⟩ := Look.publishing_of_publishes publishes
    have known : l.before.access.current = some previous := (known_before h).trans just_before
    have ascends : previous.Ascends := published_ascends (List.mem_of_getLast? just_before)
    refine ⟨new, publishing.current, ?_, ?_⟩
    · intro differ
      exact publishing.other previous known
        ((Snapshot.sameGates_eq_false_iff ascends publishing.ascends).2 differ)
    · intro same
      rw [← Snapshot.sameGates_eq_false_iff ascends publishing.ascends, Bool.not_eq_false] at same
      exact publishing.same previous known same
  replayed := by
    intro first h
    have recorded := recorded_of_published rfl rfl h
    obtain ⟨last, known, -, linked⟩ := recorded.linked
    exact ⟨last, known, linked, linked.replay_eq recorded.ascends⟩

/-- The gates of one release, of which some are enabled. -/
def released (enabled : List String) : FeatureGate where
  metadata := {}
  spec := ⟨.standard, none⟩
  status := some ⟨[⟨"4.20.0", enabled, []⟩]⟩

/-- The gates are not there yet, then they are, and then one of them is turned on. -/
def arriving : List Sight :=
  [⟨none, none⟩, ⟨none, some (released [])⟩, ⟨none, some (released [migrationGate])⟩]

theorem tells_arriving :
    ((Following.fresh "4.20.0" unknownVersion).journal arriving).map Look.answer =
      [.ok .pending, .ok .initialized, .ok (.changed
        ⟨⟨"4.20.0", .empty, .empty⟩, ⟨"4.20.0", ⟨[migrationGate]⟩, .empty⟩⟩)] ∧
    TellsHistory (.fresh "4.20.0" unknownVersion) arriving :=
  ⟨rfl, tells_history _ _ _⟩

end GatedManager.Gates
