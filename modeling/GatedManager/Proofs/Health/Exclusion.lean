import GatedManager.Proofs.Health.Agreement
import GatedManager.Proofs.Http.Percent

/-!
# Excluding checks by name

A check is asked for by a path segment that is percent-encoded, and left out of the whole set by a
parameter that is taken as it is written. So a segment that asks for a check excludes it exactly
when it is the name itself, without `&`.
-/

namespace GatedManager.Health

open Http (Target)

namespace CheckSet

variable {set : CheckSet} {name other : String} {failure : Option String} {probe : Probe}
variable {query : Option (List Char)}

/-! ### What a check says -/

theorem find?_update : (set.update name failure).find? other =
    (set.find? other).map fun check =>
      if other = name then { check with failure := failure } else check := by
  have same_name : ∀ check : Check,
      (if check.name = name then { check with failure := failure } else check).name =
        check.name := by
    intro check
    split <;> rfl
  rw [find?, update, List.find?_map]
  simp only [Function.comp_def, same_name]
  refine Option.map_congr fun check found => ?_
  have named : check.name = other := by simpa using List.find?_some found
  rw [named]

theorem answerOne_update_of_ne (different : other ≠ name) :
    (set.update name failure).answerOne other = set.answerOne other := by
  rw [answerOne, answerOne, find?_update]
  simp [different]

theorem answerOne_update_self (found : name ∈ set.names) :
    (set.update name failure).answerOne name = answerCheck ⟨name, failure⟩ := by
  obtain ⟨check, first⟩ := Option.isSome_iff_exists.1 (isSome_find?.2 found)
  have named : check.name = name := by simpa using List.find?_some first
  rw [answerOne, find?_update, first, ← named]
  simp

theorem members_update : (set.update name failure).members = set.members := by
  rw [members, members, names_update]

theorem members_eq_names (found : name ∈ set.names) : set.members = set.names :=
  if_neg (List.ne_nil_of_mem found)

/-- A check that is left out has no part in the answer for the whole set. -/
theorem answerAll_update_of_leavesOut (excluded : LeavesOut query name) :
    (set.update name failure).answerAll (Query.read query) = set.answerAll (Query.read query) := by
  refine answerAll_map (fun _ => by split <;> rfl) fun check kept => ?_
  have other : check.name ≠ name := by
    rintro rfl
    exact kept (Query.mem_excluded_read.2 excluded)
  rw [if_neg other]

theorem entry_update_of_ne (different : other ≠ name) :
    (set.update name failure).entry query other = set.entry query other := by
  rw [entry, entry, answerOne_update_of_ne different]

theorem entry_update_self (found : name ∈ set.names) (kept : ¬LeavesOut query name) :
    (set.update name failure).entry query name =
      if failure.isNone then "[+]" ++ name ++ " ok\n"
      else "[-]" ++ name ++ " failed: reason withheld\n" := by
  rw [entry, if_neg kept, answerOne_update_self found]
  cases failure <;> rfl

theorem status_update_failing (reason : String) (h : set.Registered probe)
    (found : name ∈ set.names) (kept : ¬LeavesOut query name) :
    ((set.update name (some reason)).answerAll (Query.read query)).status = 500 := by
  have agrees : (set.update name (some reason)).Agrees probe query := h.update.agrees query
  refine agrees.status.resolve_left fun passes => ?_
  have member : name ∈ (set.update name (some reason)).members := by
    rwa [members_update, members_eq_names found]
  have alone := agrees.passes.1 passes name member kept
  rw [answerOne_update_self found] at alone
  cases alone

/-- A check that is not left out shows in the answer for the whole set: its line has another mark
when it fails. -/
theorem leavesOut_of_answerAll_update (h : set.Registered probe) (found : name ∈ set.names)
    (same : (set.update name none).answerAll (Query.read query) =
      (set.update name (some "")).answerAll (Query.read query)) : LeavesOut query name := by
  by_contra kept
  have fails := status_update_failing "" h found kept
  have passing : (set.update name none).Agrees probe query := h.update.agrees query
  have failing : (set.update name (some "")).Agrees probe query := h.update.agrees query
  obtain ⟨warned, -, -, body⟩ := passing.report (.inl (same ▸ fails))
  obtain ⟨warned', -, -, body'⟩ := failing.report (.inl fails)
  -- The lines before that of this check are the same in both reports.
  obtain ⟨before, after, split, fresh⟩ := List.eq_append_cons_of_mem found
  have lines : before.map ((set.update name none).entry query) =
      before.map ((set.update name (some "")).entry query) := by
    refine List.map_congr_left fun other earlier => ?_
    have different : other ≠ name := fun same => fresh (same ▸ earlier)
    rw [entry_update_of_ne different, entry_update_of_ne different]
  rw [same, body', members_update, members_update, members_eq_names found, split] at body
  simp only [List.map_append, List.map_cons, String.join_append, String.join_cons, lines,
    entry_update_self found kept, String.append_assoc, String.append_right_inj] at body
  have marks := congrArg String.toList body
  simp at marks

end CheckSet

/-! ### Targets -/

namespace Probes

variable {probes : Probes} {probe : Probe} {name : String} {segment : List Char}
variable {query : Option (List Char)} {response : Http.Response} {events : List Event}

/-- The target of a whole set. -/
def wholeTarget (probe : Probe) (query : Option (List Char)) : Target :=
  ⟨'/' :: probe.name.toList, query⟩

/-- The target of one check. -/
def checkTarget (probe : Probe) (segment : List Char) : Target :=
  ⟨'/' :: (probe.name.toList ++ '/' :: segment), none⟩

/-- The probes when a check of one of them says something else. -/
def saying (probes : Probes) (probe : Probe) (name : String) (failure : Option String) : Probes :=
  probes.after ⟨probe, .turn name failure⟩

/-- Whether a target asks for one check: it gets the answer of this check, whatever this is. -/
def AsksFor (probes : Probes) (probe : Probe) (name : String) (target : Target) : Prop :=
  ∀ failure, (probes.saying probe name failure).answer? target =
    some (CheckSet.answerCheck ⟨name, failure⟩)

/-- Whether a target gets an answer that leaves out one check: it is the same whatever this check
says. -/
def Disregards (probes : Probes) (probe : Probe) (name : String) (target : Target) : Prop :=
  ∃ response, ∀ failure, (probes.saying probe name failure).answer? target = some response

theorem get_saying {failure : Option String} : (probes.saying probe name failure).get probe =
    (probes.get probe).update name failure :=
  get_after_self

theorem find?_name : probes.find? probe.name.toList = some (probes.get probe) := by
  cases probe <;> rfl

theorem slash_notMem_name : '/' ∉ probe.name.toList := by
  cases probe <;> decide

theorem answer?_wholeTarget : probes.answer? (wholeTarget probe query) =
    some ((probes.get probe).answerAll (Query.read query)) := by
  rw [answer?, wholeTarget, Http.segments, Text.splitOn_of_notMem slash_notMem_name]
  simp only [find?_name, Option.map_some]

theorem answer?_checkTarget_eq_some_iff :
    probes.answer? (checkTarget probe segment) = some response ↔
      segment ≠ [] ∧ '/' ∉ segment ∧ answerSegment (probes.get probe) segment = response := by
  rw [answer?, checkTarget, Http.segments, Text.splitOn_append,
    Text.splitOn_of_notMem slash_notMem_name, List.singleton_append]
  by_cases slash : '/' ∈ segment
  · obtain ⟨first, rest, rfl, free⟩ := List.eq_append_cons_of_mem slash
    rw [Text.splitOn_append, Text.splitOn_of_notMem free, List.singleton_append]
    cases more : Text.splitOn '/' rest with
    | nil => exact absurd more (Text.splitOn_eq '/' rest ▸ List.splitOn_ne_nil '/' rest)
    | cons second others => simp
  · rw [Text.splitOn_of_notMem slash]
    cases segment <;> simp [find?_name, slash]

/-- A segment asks for a check when it is a percent-encoding of its name. -/
theorem asksFor_iff (found : name ∈ (probes.get probe).names) :
    probes.AsksFor probe name (checkTarget probe segment) ↔
      segment ≠ [] ∧ '/' ∉ segment ∧ Http.decodeSegment? segment = some name := by
  simp only [AsksFor, answer?_checkTarget_eq_some_iff, get_saying, forall_and, forall_const,
    answerSegment]
  refine and_congr_right fun _ => and_congr_right fun _ => ⟨fun answers => ?_, fun decoded => ?_⟩
  · cases decoded : Http.decodeSegment? segment with
    | none =>
        rw [decoded] at answers
        cases answers none
    | some other =>
        simp only [decoded] at answers
        by_contra different
        have different : other ≠ name := fun same => different (congrArg some same)
        have same := (answers none).symm.trans
          ((CheckSet.answerOne_update_of_ne different).trans
            ((CheckSet.answerOne_update_of_ne different).symm.trans (answers (some ""))))
        cases same
  · rw [decoded]
    exact fun _ => CheckSet.answerOne_update_self found

theorem disregards_iff (h : (probes.get probe).Registered probe)
    (found : name ∈ (probes.get probe).names) :
    probes.Disregards probe name (wholeTarget probe query) ↔ LeavesOut query name := by
  simp only [Disregards, answer?_wholeTarget, get_saying, Option.some.injEq]
  constructor
  · rintro ⟨response, same⟩
    exact CheckSet.leavesOut_of_answerAll_update h found ((same none).trans (same _).symm)
  · intro excluded
    exact ⟨_, fun _ => CheckSet.answerAll_update_of_leavesOut excluded⟩

end Probes

/-! ### Parameters -/

/-- A query in which one parameter excludes `segment`, among others. -/
def excluding (before : List (List Char)) (segment : List Char) (after : List (List Char)) :
    Option (List Char) :=
  some (List.intercalate ['&'] (before ++ ("exclude=".toList ++ segment) :: after))

/-- A percent-encoding of a name excludes it when it is the name itself, without `&`. -/
theorem leavesOut_excluding {name : String} {segment : List Char} {before after : List (List Char)}
    (some_name : name ≠ "") (decoded : Http.decodeSegment? segment = some name) :
    LeavesOut (excluding before segment after) name ↔ segment = name.toList ∧ '&' ∉ segment ∨
      LeavesOut (some (List.intercalate ['&'] (before ++ after))) name := by
  by_cases ampersand : '&' ∈ segment
  · have named := Http.ampersand_mem_of_decodeSegment? ampersand decoded
    refine iff_of_false (fun h => h.ampersand_notMem named) ?_
    rintro (⟨-, free⟩ | h)
    · exact free ampersand
    · exact h.ampersand_notMem named
  · have free : '&' ∉ "exclude=".toList ++ segment := by simp [ampersand]
    have excludes : (∃ part ∈ Text.splitOn '&' ("exclude=".toList ++ segment),
        Excludes part name) ↔ segment = name.toList := by
      rw [Text.splitOn_of_notMem free]
      simp only [List.mem_singleton, exists_eq_left, Excludes, List.append_cancel_left_eq]
      exact and_iff_right some_name
    rw [excluding, leavesOut_intercalate, leavesOut_intercalate]
    simp only [List.mem_append, List.mem_cons, or_and_right, exists_or, exists_eq_left, excludes,
      ampersand, not_false_iff, and_true]
    exact or_left_comm

open Probes

/-- Every registered check can be asked for, under its name unless this has a percent sign. What
asks for a check also excludes it, whatever else the query says, if it is the name as it stands,
without `&`; otherwise the rest of the query decides. An answer that leaves a check out tells
whether all others that are not excluded pass. -/
theorem excludable_as_written {events : List Event} {probes : Probes}
    (history : reached events = probes) (probe : Probe) (name : String)
    (registered : name ∈ (probes.get probe).names) :
    probes.AsksFor probe name (checkTarget probe (Http.percentEncode name)) ∧
    ('%' ∉ name.toList → probes.AsksFor probe name (checkTarget probe name.toList)) ∧
    ∀ segment, probes.AsksFor probe name (checkTarget probe segment) → ∀ before after,
      let target := wholeTarget probe (excluding before segment after)
      (probes.Disregards probe name target ↔ segment = name.toList ∧ '&' ∉ segment ∨
        LeavesOut (some (List.intercalate ['&'] (before ++ after))) name) ∧
      (probes.Disregards probe name target → ∃ response, probes.answer? target = some response ∧
        (response.status = 200 ↔ ∀ other ∈ (probes.get probe).names, other ≠ name →
          ¬LeavesOut (excluding before segment after) other →
            ((probes.get probe).answerOne other).status = 200)) := by
  have sets : (probes.get probe).Registered probe := history ▸ registered_reached events probe
  obtain ⟨some_name, no_slash⟩ := sets.admissible name registered
  refine ⟨?_, fun plain => ?_, fun segment asks before after => ?_⟩
  · exact (asksFor_iff registered).2 ⟨Http.percentEncode_ne_nil some_name,
      Http.slash_notMem_percentEncode, Http.decodeSegment?_percentEncode name⟩
  · exact (asksFor_iff registered).2 ⟨fun empty => some_name (String.toList_eq_nil_iff.1 empty),
      no_slash, Http.decodeSegment?_toList plain⟩
  · obtain ⟨-, -, decoded⟩ := (asksFor_iff registered).1 asks
    intro target
    have left_out : probes.Disregards probe name target ↔
        LeavesOut (excluding before segment after) name := disregards_iff sets registered
    refine ⟨left_out.trans (leavesOut_excluding some_name decoded), fun disregards => ?_⟩
    refine ⟨_, answer?_wholeTarget, ?_⟩
    rw [(sets.agrees _).passes, CheckSet.members_eq_names registered]
    refine forall₂_congr fun other _ => ⟨fun h _ => h, fun h kept => h ?_ kept⟩
    rintro rfl
    exact kept (left_out.1 disregards)

theorem database_excludable :
    let probes := reached [⟨.readyz, .offer ⟨"db", some "down"⟩⟩]
    "db" ∈ (probes.get .readyz).names ∧
    probes.AsksFor .readyz "db" (checkTarget .readyz "db".toList) ∧
    probes.Disregards .readyz "db"
      (wholeTarget .readyz (excluding ["verbose".toList] "db".toList [])) := by
  intro probes
  have registered : "db" ∈ (probes.get .readyz).names := by decide
  obtain ⟨-, plain, exclusion⟩ := excludable_as_written rfl .readyz "db" registered
  have asks := plain (by decide)
  exact ⟨registered, asks,
    (exclusion "db".toList asks ["verbose".toList] []).1.2 (.inl ⟨rfl, by decide⟩)⟩

/-- A check whose name has a blank can be asked for, but the same segment does not exclude it. -/
theorem blank_not_excludable :
    let probes := reached [⟨.healthz, .offer ⟨"a b", some "down"⟩⟩]
    "a b" ∈ (probes.get .healthz).names ∧
    probes.AsksFor .healthz "a b" (checkTarget .healthz "a%20b".toList) ∧
    ¬probes.Disregards .healthz "a b" (wholeTarget .healthz (excluding [] "a%20b".toList [])) ∧
    probes.serve ⟨"GET", "/healthz/a%20b"⟩ = .text 500 "internal server error: down" ∧
    (probes.serve ⟨"GET", "/healthz?exclude=a%20b"⟩).status = 500 := by
  intro probes
  have registered : "a b" ∈ (probes.get .healthz).names := by decide
  have asks : probes.AsksFor .healthz "a b" (checkTarget .healthz "a%20b".toList) :=
    (asksFor_iff registered).2 ⟨by decide, by decide, rfl⟩
  refine ⟨registered, asks, ?_, by decide, by decide⟩
  rw [disregards_iff (registered_reached _ _) registered]
  decide

end GatedManager.Health
