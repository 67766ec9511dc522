import GatedManager.Proofs.Election.Stages
import GatedManager.Proofs.Manager.Proceeding

/-!
# Leading

A run leads from the answer with which it acquired its lease until it has started its runnables. It
comes to lead only by the answer that a write was stored; every other action leaves it leading or
ends that. No action but the passing of time moves the clock.
-/

namespace GatedManager.Election.Campaign

/-- Acquiring ends well only with the answer that a write was stored. -/
theorem acquired_of_answer {c c' : Campaign} {answer : Answer} {now : Instant}
    (open_ : c.attempt?.isSome) (h : c.answer answer now = .ok c')
    (acquired : c'.outcome? = some .acquired) : answer = .written (.ok ()) := by
  obtain ⟨attempt, ha⟩ := Option.isSome_iff_exists.1 open_
  have ended := outcome?_eq_some_iff.1 acquired
  rcases attempt?_eq_some_iff.1 ha with hs | ⟨deadline, hs⟩
  · rcases answer_acquiring hs h with ⟨wait, hs'⟩ | hs' | ⟨hs', stored⟩
    · simp [hs'] at ended
    · simp [hs'] at ended
    · exact stored
  · rcases answer_renewing hs h with ⟨wait, hs'⟩ | hs' | ⟨hs', stored⟩
    · simp [hs'] at ended
    · simp [hs'] at ended
    · exact stored

theorem acquired_of_wake {c : Campaign} {now : Instant} {clock : Timestamp}
    (acquired : (c.wake now clock).outcome? = some .acquired) : c.outcome? = some .acquired := by
  unfold wake at acquired
  split at acquired
  case h_1 =>
    split at acquired
    · simp [outcome?] at acquired
    · exact acquired
  case h_2 =>
    simp only at acquired
    split at acquired
    · simp [outcome?] at acquired
    · exact acquired
  case h_3 =>
    split at acquired
    · simp [outcome?] at acquired
    split at acquired
    · simp [outcome?] at acquired
    · exact acquired
  case h_4 =>
    split at acquired
    · simp [outcome?] at acquired
    · exact acquired
  case h_5 => exact acquired

theorem acquired_of_cancel {c : Campaign} (acquired : c.cancel.outcome? = some .acquired) :
    c.outcome? = some .acquired := by
  unfold cancel at acquired
  split at acquired
  case h_4 => simpa [outcome?] using acquired
  all_goals simp [outcome?] at acquired

end GatedManager.Election.Campaign

namespace GatedManager.Manager.Run

/-- Whether the run has acquired its lease and has not yet started all its runnables. -/
def isLeading (r : Run) : Bool :=
  match r.stage with
  | .campaigning c => c.outcome? = some .acquired
  | .syncing _ => r.elector.isSome
  | .starting => r.elector.isSome
  | _ => false

variable {r r' : Run}

theorem isLeading_withCampaign {c c' : Election.Campaign} (ongoing : r.campaign? = some c)
    (leads : (r.withCampaign c').isLeading) :
    r.stage = .campaigning c ∧ c'.outcome? = some .acquired := by
  unfold campaign? at ongoing
  split at ongoing
  case h_1 c hs =>
    obtain rfl := Option.some.inj ongoing
    simpa [withCampaign, isLeading, hs] using leads
  case h_2 campaign hs =>
    subst ongoing
    simp [withCampaign, isLeading, hs] at leads
  case h_3 => cases ongoing

theorem answer_eq {c c' : Election.Campaign} {answer : Election.Answer}
    (ongoing : r.campaign? = some c) (waits : c.attempt?.isSome)
    (proceeds : c.answer answer r.now = .ok c') : r.answer answer = some (r.withCampaign c') := by
  rw [Run.answer, ongoing]
  simp only [Option.isNone_iff_eq_none, Option.isSome_iff_ne_none.1 waits, if_false, proceeds]

/-! ### Coming to lead -/

theorem leading_of_answered {c c' : Election.Campaign} {answer : Election.Answer}
    (ongoing : r.campaign? = some c) (waits : c.attempt?.isSome)
    (goes_on : c.answer answer r.now = .ok c') (leads : (r.withCampaign c').isLeading) :
    answer = .written (.ok ()) := by
  obtain ⟨-, acquired⟩ := isLeading_withCampaign ongoing leads
  exact Election.Campaign.acquired_of_answer waits goes_on acquired

theorem leading_of_woken {c : Election.Campaign} {clock : Timestamp}
    (ongoing : r.campaign? = some c)
    (leads : (r.withCampaign (c.wake r.now clock)).isLeading) : r.isLeading := by
  obtain ⟨campaigning, acquired⟩ := isLeading_withCampaign ongoing leads
  have before := Election.Campaign.acquired_of_wake acquired
  simpa [isLeading, campaigning] using before

theorem leading_of_halt (leads : r.halt.isLeading) : r.isLeading := by
  simp only [halt] at leads
  split at leads
  case h_1 c ongoing =>
    obtain ⟨hs, acquired⟩ := isLeading_withCampaign ongoing leads
    have hs' : r.stage = .campaigning c := hs
    have before : c.outcome? = some .acquired := acquired
    simpa [isLeading, hs'] using before
  case h_2 => exact leads

theorem leading_of_stoppedCampaign {c : Election.Campaign} (ongoing : r.campaign? = some c)
    (leads : (r.withCampaign c.cancel).isLeading) : r.isLeading := by
  obtain ⟨campaigning, acquired⟩ := isLeading_withCampaign ongoing leads
  have before := Election.Campaign.acquired_of_cancel acquired
  simpa [isLeading, campaigning] using before

/-- A run that leads did so before, or has just got the answer that a write was stored. -/
theorem leading_of_step {action : Action} (h : r.step action = some r') (leads : r'.isLeading) :
    r.isLeading ∨ action = .answer (.written (.ok ())) := by
  cases proceeds_of_step h with
  | answered ongoing waits goes_on =>
      exact .inr (congrArg Action.answer (leading_of_answered ongoing waits goes_on leads))
  | woken ongoing due clock => exact .inl (leading_of_woken ongoing leads)
  | shutdown => exact .inl (leading_of_halt leads)
  | halted => exact .inl (leading_of_halt leads)
  | stoppedCampaign stopped ongoing idle => exact .inl (leading_of_stoppedCampaign ongoing leads)
  | acquired campaigning outcome => exact .inl (by simp [isLeading, campaigning, outcome])
  | synced syncing all => exact .inl (by simpa [isLeading, syncing] using leads)
  | found syncing is_cell is_ready => exact .inl (by simpa [isLeading, syncing] using leads)
  | passed | informed | ticked | started | serviceEnded | runnableEnded | serviceClean
  | runnableClean => exact .inl leads
  | unopposed binding alone clock => simp [isLeading, alone] at leads
  | campaigned => simp [isLeading, Election.Campaign.outcome?, Election.Campaign.acquire] at leads
  | _ => simp [isLeading, close, leave] at leads

/-- Only the answer that a write was stored makes a run lead that did not lead before. -/
theorem leading_of_answer {answer : Election.Answer} (h : r.step (.answer answer) = some r')
    (leads : r'.isLeading) : answer = .written (.ok ()) := by
  cases proceeds_of_step h with
  | answered ongoing waits goes_on => exact leading_of_answered ongoing waits goes_on leads
  | crashed => simp [isLeading] at leads

/-! ### What actions keep -/

/-- What an action keeps unless time passes: the manager, the instant, and that there is an
election. -/
structure Keeps (r r' : Run) : Prop where
  manager : r'.manager = r.manager
  now : r'.now = r.now
  elector : r.elector.isSome → r'.elector.isSome

theorem keeps_withCampaign (c : Election.Campaign) : Keeps r (r.withCampaign c) := by
  unfold withCampaign
  split <;> exact ⟨rfl, rfl, id⟩

theorem keeps_setLeader (leading : Bool) : Keeps r (r.setLeader leading) := by
  unfold setLeader
  split <;> exact ⟨rfl, rfl, id⟩

theorem keeps_halt : Keeps r r.halt := by
  simp only [halt]
  split
  case h_1 c _ =>
    have set := @keeps_withCampaign { r with stopped := true } c.signal
    exact ⟨set.manager, set.now, set.elector⟩
  case h_2 => exact ⟨rfl, rfl, id⟩

theorem keeps_of_step {action : Action} (h : r.step action = some r')
    (still : ∀ now, action ≠ .pass now) : Keeps r r' := by
  cases proceeds_of_step h with
  | @passed now => exact absurd rfl (still now)
  | campaigned =>
      have set := @keeps_setLeader
        { r with cache := r.cache.start r.now, background := r.background.spawn cacheTask } false
      exact ⟨set.manager, set.now, set.elector⟩
  | answered => exact keeps_withCampaign _
  | woken => exact keeps_withCampaign _
  | acquired =>
      have set := @keeps_setLeader r true
      exact ⟨set.manager, set.now, fun _ => rfl⟩
  | lost =>
      have set := @keeps_setLeader r false
      exact ⟨set.manager, set.now, set.elector⟩
  | shutdown => exact ⟨keeps_halt.manager, keeps_halt.now, keeps_halt.elector⟩
  | halted => exact keeps_halt
  | stoppedCampaign => exact keeps_withCampaign _
  | _ => exact ⟨rfl, rfl, id⟩

end GatedManager.Manager.Run
