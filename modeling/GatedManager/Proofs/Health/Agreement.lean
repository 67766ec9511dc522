import GatedManager.Proofs.Health.Query
import GatedManager.Proofs.Health.Registration
import GatedManager.Proofs.Text.Utf8

/-!
# Whole sets and single checks

The answer for a whole set follows from the answers for its members, one by one. It depends on
whether a check fails but not on why, and checks that were rejected have no part in it.
-/

namespace GatedManager.Health

/-- A check that does not say why it fails. -/
def Check.withheld (check : Check) : Check :=
  { check with failure := check.failure.map fun _ => "" }

namespace CheckSet

/-- A set whose checks do not say why they fail. -/
def withheld (set : CheckSet) : CheckSet := { set with checks := set.checks.map Check.withheld }

/-- The names that a set answers for: the registered ones, or `ping` where there are none. -/
def members (set : CheckSet) : List String :=
  if set.names = [] then [ping.name] else set.names

/-- The line of a name in the report. Its mark tells that the name is left out, or else what the
answer for this name alone is. -/
def entry (set : CheckSet) (query : Option (List Char)) (name : String) : String :=
  if LeavesOut query name then "[+]" ++ name ++ " excluded: ok\n"
  else if (set.answerOne name).status = 200 then "[+]" ++ name ++ " ok\n"
  else "[-]" ++ name ++ " failed: reason withheld\n"

/-- Whether names are in the order of their bytes, each once. -/
def InByteOrder (names : List String) : Prop :=
  names.Pairwise fun a b => Text.utf8Encode a.toList < Text.utf8Encode b.toList

/-- How the answer for a whole set follows from the answers for its members. -/
structure Agrees (set : CheckSet) (probe : Probe) (query : Option (List Char)) : Prop where
  passes : (set.answerAll (Query.read query)).status = 200 ↔
    ∀ name ∈ set.members, ¬LeavesOut query name → (set.answerOne name).status = 200
  status : (set.answerAll (Query.read query)).status = 200 ∨
    (set.answerAll (Query.read query)).status = 500
  report : (set.answerAll (Query.read query)).status = 500 ∨ AsksVerbose (parts query) →
    ∃ warned, InByteOrder warned ∧
      (∀ name, name ∈ warned ↔ LeavesOut query name ∧ name ∉ set.members) ∧
      (set.answerAll (Query.read query)).body =
        String.join (set.members.map (set.entry query)) ++ String.join (warned.map warningLine) ++
          (probe.name ++ if (set.answerAll (Query.read query)).status = 200
            then " check passed\n" else " check failed\n")
  brief : (set.answerAll (Query.read query)).status = 200 → ¬AsksVerbose (parts query) →
    (set.answerAll (Query.read query)).body = "ok"

variable {set other : CheckSet} {check : Check} {name : String} {probe : Probe}
variable {query : Option (List Char)} {names : List String}

theorem inByteOrder_of_pairwise (ascends : names.Pairwise (· < ·)) : InByteOrder names :=
  ascends.imp fun less => Text.utf8Encode_lt (String.lt_iff_toList_lt.1 less)

/-! ### Members -/

theorem members_eq : set.members = set.effective.map (·.name) := by
  cases checks : set.checks with
  | nil => simp [members, names, effective, checks]
  | cons first rest => simp [members, names, effective, checks]

theorem mem_members : name ∈ set.members ↔ ∃ check ∈ set.effective, check.name = name := by
  rw [members_eq, List.mem_map]

theorem pairwise_members (h : set.Registered probe) : set.members.Pairwise (· < ·) := by
  rw [members]
  split
  · exact List.pairwise_singleton _ _
  · exact h.ascends

theorem status_answerCheck : (answerCheck check).status = 200 ↔ check.failure = none := by
  cases failure : check.failure <;> simp [answerCheck, failure, Http.Response.text]

/-- A member is asked for alone by its name, `ping` too. -/
theorem answerOne_eq (h : set.Registered probe) (member : check ∈ set.effective) :
    set.answerOne check.name = answerCheck check := by
  rw [effective] at member
  split at member
  · next empty =>
    obtain rfl := List.mem_singleton.1 member
    have absent : set.find? ping.name = none := by
      rw [find?, List.isEmpty_iff.1 empty]
      rfl
    rw [answerOne, absent]
    exact if_pos rfl
  · rw [answerOne, h.find?_eq member]

/-! ### The answer for all -/

theorem fails_iff (h : set.Registered probe) : set.fails (Query.read query) ↔
    ∃ name ∈ set.members, ¬LeavesOut query name ∧ (set.answerOne name).status ≠ 200 := by
  simp only [fails, List.any_eq_true, Bool.and_eq_true, Bool.not_eq_true', mem_members,
    ← Query.mem_excluded_read]
  constructor
  · rintro ⟨check, member, kept, failing⟩
    refine ⟨check.name, ⟨check, member, rfl⟩, by simpa using kept, ?_⟩
    rw [answerOne_eq h member, ne_eq, status_answerCheck]
    exact Option.isSome_iff_ne_none.1 failing
  · rintro ⟨_, ⟨check, member, rfl⟩, kept, failing⟩
    rw [answerOne_eq h member, ne_eq, status_answerCheck] at failing
    exact ⟨check, member, by simpa using kept, Option.isSome_iff_ne_none.2 failing⟩

theorem reportLine_eq (h : set.Registered probe) (member : check ∈ set.effective) :
    reportLine (Query.read query) check = set.entry query check.name := by
  have excluded : (Query.read query).excluded.contains check.name ↔ LeavesOut query check.name :=
    List.contains_iff_mem.trans Query.mem_excluded_read
  simp only [reportLine, entry, excluded, answerOne_eq h member, status_answerCheck]
  cases check.failure <;> simp

theorem mem_unmatched :
    name ∈ set.unmatched (Query.read query) ↔ LeavesOut query name ∧ name ∉ set.members := by
  simp only [unmatched, List.mem_filter, Query.mem_excluded_read, mem_members]
  simp

theorem report_eq (h : set.Registered probe) : set.report (Query.read query) =
    String.join (set.members.map (set.entry query)) ++
      String.join ((set.unmatched (Query.read query)).map warningLine) := by
  rw [report, members_eq, List.map_map]
  refine congrArg (String.join · ++ _) (List.map_congr_left fun check member => ?_)
  exact reportLine_eq h member

theorem Registered.agrees (h : set.Registered probe) (query : Option (List Char)) :
    set.Agrees probe query := by
  have passing : ¬set.fails (Query.read query) ↔
      ∀ name ∈ set.members, ¬LeavesOut query name → (set.answerOne name).status = 200 := by
    simp only [fails_iff h, not_exists, not_and, ne_eq, not_not]
  have reported : ∀ verdict, ∃ warned, InByteOrder warned ∧
      (∀ name, name ∈ warned ↔ LeavesOut query name ∧ name ∉ set.members) ∧
      set.report (Query.read query) ++ set.probe.name ++ verdict =
        String.join (set.members.map (set.entry query)) ++ String.join (warned.map warningLine) ++
          (probe.name ++ verdict) := by
    intro verdict
    refine ⟨set.unmatched (Query.read query),
      inByteOrder_of_pairwise (Query.pairwise_excluded_read.filter _), fun _ => mem_unmatched, ?_⟩
    rw [report_eq h, h.probe_eq, String.append_assoc]
  by_cases fails : set.fails (Query.read query)
  · have answer : set.answerAll (Query.read query) = .text 500
        (set.report (Query.read query) ++ set.probe.name ++ " check failed\n") := if_pos fails
    constructor <;> rw [answer]
    · exact iff_of_false (nomatch ·) fun all => passing.2 all fails
    · exact .inr rfl
    · exact fun _ => reported " check failed\n"
    · exact fun passed => nomatch passed
  by_cases verbose : (Query.read query).verbose
  · have answer : set.answerAll (Query.read query) = .text 200
        (set.report (Query.read query) ++ set.probe.name ++ " check passed\n") := by
      rw [answerAll, if_neg fails, if_pos verbose]
    constructor <;> rw [answer]
    · exact iff_of_true rfl (passing.1 fails)
    · exact .inl rfl
    · exact fun _ => reported " check passed\n"
    · exact fun _ brief => absurd (Query.verbose_read.1 verbose) brief
  · have answer : set.answerAll (Query.read query) = .text 200 "ok" := by
      rw [answerAll, if_neg fails, if_neg verbose]
    constructor <;> rw [answer]
    · exact iff_of_true rfl (passing.1 fails)
    · exact .inl rfl
    · rintro (failed | asked)
      · cases failed
      · exact absurd (Query.verbose_read.2 asked) verbose
    · exact fun _ _ => rfl

/-! ### What the checks say -/

/-- The answer for the whole set depends on which checks there are and on which of those that are
not excluded fail. -/
theorem answerAll_map {query : Query} {f : Check → Check}
    (name : ∀ check, (f check).name = check.name)
    (fails : ∀ check, check.name ∉ query.excluded →
      (f check).failure.isSome = check.failure.isSome) :
    answerAll { set with checks := set.checks.map f } query = set.answerAll query := by
  have line : ∀ check, reportLine query (f check) = reportLine query check := by
    intro check
    rw [reportLine, reportLine, name]
    split
    · rfl
    · next kept =>
      have same := fails check (by simpa using kept)
      revert same
      cases (f check).failure <;> cases check.failure <;> simp
  have part : ∀ check, (!query.excluded.contains check.name && (f check).failure.isSome) =
      (!query.excluded.contains check.name && check.failure.isSome) := by
    intro check
    by_cases kept : check.name ∈ query.excluded
    · simp [kept]
    · rw [fails check kept]
  cases all : set.checks with
  | nil =>
      rw [List.map_nil, ← all]
  | cons first rest =>
      have effective_map : effective { set with checks := (first :: rest).map f } =
          set.effective.map f := by
        rw [effective, effective, all]
        rfl
      simp only [answerAll, CheckSet.fails, report, unmatched, effective_map, List.any_map,
        List.map_map, Function.comp_def, line, part, name]
      rfl

/-- Why a check fails has no part in the answer for the whole set. -/
theorem answerAll_withheld (query : Query) : set.withheld.answerAll query = set.answerAll query :=
  answerAll_map (fun _ => rfl) fun _ _ => Option.isSome_map

end CheckSet

open CheckSet

/-- After every history the answer for a whole set agrees with those for its members, which are
the checks that were taken, in the order of their names. Sets that differ only in why their checks
fail are answered for alike, and a check that is rejected changes no answer, now or later. -/
theorem endpoints_agree (events : List Event) (probe : Probe) :
    (∀ query, ((Probes.reached events).get probe).Agrees probe query) ∧
    (∀ name, name ∈ ((Probes.reached events).get probe).names ↔
      Admissible name ∧ ∃ check, ⟨probe, .offer check⟩ ∈ events ∧ check.name = name) ∧
    InByteOrder ((Probes.reached events).get probe).members ∧
    (∀ set other : CheckSet, set.withheld = other.withheld →
      ∀ query, set.answerAll query = other.answerAll query) ∧
    (∀ check fault, ((Probes.reached events).get probe).add check = .error fault ↔
      fault.Concerns ((Probes.reached events).get probe).names check.name) ∧
    ∀ check fault, ((Probes.reached events).get probe).add check = .error fault →
      ∀ later request, (Probes.reached (events ++ ⟨probe, .offer check⟩ :: later)).serve request =
        (Probes.reached (events ++ later)).serve request := by
  have registered := Probes.registered_reached events probe
  refine ⟨registered.agrees, fun _ => Probes.mem_names_reached,
    inByteOrder_of_pairwise (pairwise_members registered), ?_, fun _ _ => add_eq_error_iff, ?_⟩
  · intro set other same query
    rw [← answerAll_withheld, same, answerAll_withheld]
  · intro check fault rejected later request
    rw [Probes.reached_rejected rejected]

theorem failing_database_agrees :
    let events : List Event := [⟨.healthz, .offer ⟨"db", some "down"⟩⟩]
    let set := (Probes.reached events).get .healthz
    let query := some "exclude=cache".toList
    (set.answerAll (Query.read query)).status = 500 ∧ (∃ warned, InByteOrder warned ∧
      (∀ name, name ∈ warned ↔ LeavesOut query name ∧ name ∉ set.members) ∧
      (set.answerAll (Query.read query)).body =
        String.join (set.members.map (set.entry query)) ++ String.join (warned.map warningLine) ++
          "healthz check failed\n") ∧
    set.answerAll (Query.read query) =
      answerAll ⟨.healthz, [⟨"db", some "overloaded"⟩]⟩ (Query.read query) ∧
    set.add ⟨"db", none⟩ = .error .duplicate ∧
      (Probes.reached (events ++ [⟨.healthz, .offer ⟨"db", none⟩⟩])).serve ⟨"GET", "/healthz/db"⟩ =
        (Probes.reached events).serve ⟨"GET", "/healthz/db"⟩ := by
  intro events set query
  obtain ⟨agrees, -, -, reasons, -, rejected⟩ := endpoints_agree events .healthz
  have failing : (set.answerAll (Query.read query)).status = 500 := by decide
  have duplicate : set.add ⟨"db", none⟩ = .error .duplicate := rfl
  exact ⟨failing, (agrees query).report (.inl failing),
    reasons set ⟨.healthz, [⟨"db", some "overloaded"⟩]⟩ (by decide) (Query.read query), duplicate,
    rejected ⟨"db", none⟩ .duplicate duplicate [] ⟨"GET", "/healthz/db"⟩⟩

end GatedManager.Health
