import WorkWatch.Proofs.Double.Product
import WorkWatch.Proofs.Wait.Alarms
import WorkWatch.Proofs.Wait.Ending

/-! Waits on a clock that counts doubles. Every reading is a number above minus infinity and every
interval is a number, however long the acquisitions take; so the tests of a turn decide, a poll only
begins before the deadline, and a pause asks for no more than what is left. -/

namespace WorkWatch

open Double

/-- A number above minus infinity. -/
def IsReading (x : Float) : Prop := IsNumber x ∧ value x ≠ ⊥

namespace IsReading

theorem of_le {x y : Float} (hx : IsReading x) (h : x ≤ y) : IsReading y := by
  obtain ⟨-, ny, hle⟩ := le_iff.mp h
  refine ⟨ny, fun hbot => hx.2 ?_⟩
  rw [hbot] at hle
  exact le_bot_iff.mp hle

theorem add {x y : Float} (hx : IsReading x) (hy : 0 ≤ y) : IsReading (x + y) :=
  hx.of_le (le_add hx.1 hx.2 hy)

theorem of_isFinite {x : Float} (h : Decimal.isFinite x = true) : IsReading x := by
  obtain ⟨hx, hfinite⟩ := isFinite_iff.mp h
  refine ⟨hx, fun hbot => ?_⟩
  unfold value at hbot
  cases hu : x.toModel.unpack with
  | notANumber => exact hx hu
  | infinity s => exact hfinite s hu
  | zero s =>
    rw [hu] at hbot
    exact absurd hbot EReal.zero_ne_bot
  | finite s m e hm =>
    rw [hu] at hbot
    cases s with
    | positive => exact absurd hbot (EReal.coe_ne_bot _)
    | negative => exact absurd hbot (EReal.coe_ne_bot _)

theorem later {x y : Float} (hx : IsReading x) : IsReading (Timescale.later x y) := by
  unfold Timescale.later
  split
  · rename_i h
    exact hx.of_le (Double.le_of_lt h)
  · exact hx

end IsReading

theorem lesser_le_left {x y : Float} (hx : IsNumber x) : Timescale.lesser x y ≤ x := by
  unfold Timescale.lesser
  split
  · rename_i h
    exact Double.le_of_lt h
  · exact le_iff.mpr ⟨hx, hx, le_refl _⟩

theorem lesser_le_right {x y : Float} (hx : IsNumber x) (hy : IsNumber y) :
    Timescale.lesser x y ≤ y := by
  unfold Timescale.lesser
  split
  · exact le_iff.mpr ⟨hy, hy, le_refl _⟩
  · rename_i h
    exact Double.le_of_not_lt hx hy h

theorem not_lt_lesser (x y : Float) : ¬ y < Timescale.lesser x y := by
  unfold Timescale.lesser
  split
  · exact fun h => lt_irrefl _ (lt_iff.mp h).2.2
  · assumption

theorem isNumber_lesser {x y : Float} (hx : IsNumber x) (hy : IsNumber y) :
    IsNumber (Timescale.lesser x y) := by
  unfold Timescale.lesser
  split
  · exact hy
  · exact hx

namespace Clock

theorem isReading_passTo (watchful : Bool) {target : Float} (htarget : IsReading target)
    (alarms : List (Alarm Float)) :
    ∀ {now : Float} (token : Cancellation), IsReading now →
      IsReading (passTo watchful target now token alarms).now := by
  induction alarms with
  | nil => exact fun _ _ => htarget
  | cons alarm rest ih =>
    intro now token hnow
    rw [passTo]
    split
    · dsimp only
      split
      · exact hnow.later
      · exact ih _ hnow.later
    · exact htarget

theorem isReading_spend {clock : Clock Float} {duration : Float} (hnow : IsReading clock.now)
    (hduration : 0 ≤ duration) : IsReading (clock.spend duration).now := by
  unfold spend
  split
  · exact hnow
  · exact isReading_passTo false (hnow.add hduration) _ _ hnow

theorem asked_nonneg (duration : Float) : 0 ≤ asked duration := by
  unfold asked
  split
  · rename_i h
    exact Double.le_of_lt h
  · exact le_iff.mpr ⟨isNumber_zero, isNumber_zero, le_refl _⟩

theorem isReading_sleep {clock : Clock Float} {duration : Float} (hnow : IsReading clock.now) :
    IsReading (clock.sleep duration).now := by
  unfold sleep
  split
  · exact hnow
  · exact isReading_passTo true (hnow.add (asked_nonneg duration)) _ _ hnow

end Clock

/-- Settings that can be waited by; any of the times may be infinite. -/
structure PollSettings.Positive (settings : PollSettings Float) : Prop where
  interval : 0 < settings.interval
  timeout : 0 < settings.timeout
  cap : 0 < settings.cap

theorem PollSettings.Positive.isNumber_intervalAfter {settings : PollSettings Float}
    (h : settings.Positive) {failures : Nat} {interval : Float}
    (hinterval : settings.intervalAfter failures = .ok interval) : IsNumber interval := by
  cases failures with
  | zero =>
    cases hinterval
    exact (isNumber_of_lt h.interval).2
  | succ failures =>
    rw [intervalAfter] at hinterval
    split at hinterval
    · cases hinterval
    · rename_i hpower
      cases hinterval
      have hscale : IsNumber (Timescale.scale settings.interval failures) :=
        isNumber_mul h.interval (floatPower_pos (Nat.not_lt.mp hpower))
      exact isNumber_lesser hscale (isNumber_of_lt h.cap).2

theorem Backoff.isNumber_failure {settings : PollSettings Float} (h : settings.Positive)
    {backoff : Backoff Float} (hbackoff : IsNumber backoff.interval) :
    IsNumber (backoff.failure settings).interval := by
  unfold failure
  split
  · rename_i interval hinterval
    exact h.isNumber_intervalAfter hinterval
  · exact hbackoff

namespace Run

variable {σ : Type} {source : Source Float σ} {settings : PollSettings Float} {goal : Goal}
  {deadline : Float}

/-- The times of a run are numbers. -/
structure Timed (run : Run Float σ) : Prop where
  now : IsReading run.clock.now
  interval : IsNumber run.backoff.interval

theorem Timed.poll (hsettings : settings.Positive)
    (htakes : ∀ surroundings, 0 ≤ (source.acquire surroundings).1.takes) {run : Run Float σ}
    (h : run.Timed) (goal : Goal) : (run.poll source settings goal).2.Timed := by
  constructor
  · rw [poll_clock]
    exact Clock.isReading_spend h.now (htakes _)
  · cases goal with
    | condition expression =>
      change IsNumber (run.pollCondition source settings expression).2.backoff.interval
      rw [pollCondition_backoff]
      split
      · exact Backoff.isNumber_failure hsettings h.interval
      · exact (isNumber_of_lt hsettings.interval).2
    | deletion =>
      change IsNumber (run.pollDeletion source).2.backoff.interval
      rw [pollDeletion_backoff]
      exact h.interval

theorem Timed.pause {run : Run Float σ} (h : run.Timed) (deadline : Float) :
    (run.pause deadline).Timed :=
  ⟨Clock.isReading_sleep h.now, h.interval⟩

/-- A turn that goes on leads to a state before the deadline that is not cancelled. -/
theorem Timed.turn (hsettings : settings.Positive)
    (htakes : ∀ surroundings, 0 ≤ (source.acquire surroundings).1.takes)
    (hdeadline : IsReading deadline) {run next : Run Float σ} (h : run.Timed)
    (hturn : run.turn source settings goal deadline = .ongoing next) :
    next.Timed ∧ next.clock.token.isCancelled = false ∧ next.clock.now < deadline := by
  cases goes_of_turn hturn with
  | on hpoll hopen hleft hstill hbefore =>
    have hpolled := h.poll hsettings htakes goal
    rw [hpoll] at hpolled
    have hpaused := hpolled.pause deadline
    exact ⟨hpaused, hstill, Double.lt_of_not_le hpaused.now.1 hdeadline.1 hbefore⟩

/-- What a wait until a deadline keeps to, by the states in which its polls begin, those in which
it pauses, and its end. A pause never asks for more than what is left; what is left cannot be told
of a clock that reads infinity. -/
structure KeepsTime (goal : Goal) (deadline : Float) (calls : List String) (clock : Clock Float)
    (states pauses : List (Run Float σ)) (result : Ending Float × Run Float σ) : Prop where
  begins : states ≠ []
  polledAt : result.2.polledAt = states.map (·.clock.now)
  waits : result.2.waits = pauses.map fun paused => Clock.asked (paused.request deadline)
  inTime : ∀ visited ∈ states.tail,
    visited.clock.token.isCancelled = false ∧ visited.clock.now < deadline
  bounded : ∀ paused ∈ pauses, paused.request deadline ≤ paused.backoff.interval ∧
    ¬ deadline - paused.clock.now < paused.request deadline ∧
    (Decimal.isFinite paused.clock.now = true →
      paused.request deadline ≤ deadline - paused.clock.now)
  expired : ∀ outcome, result.1 = .outcome outcome → outcome.state = .expired →
    deadline ≤ result.2.clock.now ∧ result.2.clock.token.isCancelled = false
  cancelled : ∀ outcome, result.1 = .outcome outcome → outcome.state = .cancelled →
    result.2.clock.token.isCancelled = true ∧
    ∃ fired cause, clock.alarms = fired ++ result.2.clock.alarms ∧
      (calls ++ fired.map (·.cause)).head? = some cause ∧
      outcome.error = some (.cancelled goal (if cause = "" then "cancelled" else cause))

theorem Timed.request_le {paused : Run Float σ} (h : paused.Timed)
    (hdeadline : IsReading deadline) :
    paused.request deadline ≤ paused.backoff.interval ∧
      ¬ deadline - paused.clock.now < paused.request deadline ∧
      (Decimal.isFinite paused.clock.now = true →
        paused.request deadline ≤ deadline - paused.clock.now) :=
  ⟨lesser_le_left h.interval, not_lt_lesser _ _, fun hfinite =>
    lesser_le_right h.interval (isNumber_sub hdeadline.1 hfinite)⟩

theorem expired_of_turn {visited : Run Float σ} {result : Ending Float × Run Float σ}
    (hturn : visited.turn source settings goal deadline = .ended result)
    {outcome : WaitOutcome Float} (houtcome : result.1 = .outcome outcome)
    (hstate : outcome.state = .expired) :
    deadline ≤ result.2.clock.now ∧ result.2.clock.token.isCancelled = false := by
  cases goes_of_turn hturn with
  | raised hpoll => cases houtcome
  | met hpoll => cases houtcome; cases hstate
  | cancelled hpoll hcancelled => cases houtcome; cases hstate
  | expired hpoll hopen hleft => exact ⟨Double.le_of_sub_nonpos hleft, hopen⟩
  | cancelledInPause hpoll hopen hleft hcancelled => cases houtcome; cases hstate
  | expiredInPause hpoll hopen hleft hstill hpast => exact ⟨hpast, hstill⟩

theorem cancelled_of_turn {visited : Run Float σ} {result : Ending Float × Run Float σ}
    (hturn : visited.turn source settings goal deadline = .ended result)
    {outcome : WaitOutcome Float} (houtcome : result.1 = .outcome outcome)
    (hstate : outcome.state = .cancelled) :
    result.2.clock.token.isCancelled = true ∧
      outcome.error = some (.cancelled goal result.2.clock.token.shownCause) := by
  cases goes_of_turn hturn with
  | raised hpoll => cases houtcome
  | met hpoll => cases houtcome; cases hstate
  | cancelled hpoll hcancelled => cases houtcome; exact ⟨hcancelled, rfl⟩
  | expired hpoll hopen hleft => cases houtcome; cases hstate
  | cancelledInPause hpoll hopen hleft hcancelled => cases houtcome; exact ⟨hcancelled, rfl⟩
  | expiredInPause hpoll hopen hleft hstill hpast => cases houtcome; cases hstate

end Run

open Run

/-- A wait of either kind begins a poll, polls again only before its deadline while it is not
cancelled, never pauses for longer than the interval or what is left, and expires or is cancelled
only for cause. -/
theorem waitFor_keepsTime {σ : Type} (source : Source Float σ) (settings : PollSettings Float)
    (goal : Goal) (clock : Clock Float) (surroundings : σ) (calls : List String) (n : Nat)
    (hsettings : settings.Positive)
    (htakes : ∀ surroundings, 0 ≤ (source.acquire surroundings).1.takes)
    (hclock : Decimal.isFinite clock.now = true) (hcalls : clock.token = .ofCalls calls) :
    KeepsTime goal (clock.now + settings.timeout) calls clock
      (pollStates source settings goal (clock.now + settings.timeout) (n + 1)
        (opened settings goal clock surroundings))
      (pauseStates source settings goal (clock.now + settings.timeout) (n + 1)
        (opened settings goal clock surroundings))
      (waitFor source settings goal clock surroundings (n + 1)) := by
  have hnow := IsReading.of_isFinite hclock
  have hdeadline : IsReading (clock.now + settings.timeout) :=
    hnow.add (Double.le_of_lt hsettings.timeout)
  -- That the times are numbers is the invariant; the turns preserve it and it gives every bound.
  have hopened : (opened settings goal clock surroundings).Timed :=
    ⟨hnow, (isNumber_of_lt hsettings.interval).2⟩
  rw [waitFor_eq]
  generalize clock.now + settings.timeout = deadline at hdeadline
  constructor
  case begins => exact pollStates_ne_nil _ _
  case polledAt => exact (loop_polledAt _ _).trans (List.nil_append _)
  case waits => exact (loop_waits _ _).trans (List.nil_append _)
  case inTime =>
    exact forall_tail_pollStates (fun run next h => h.turn hsettings htakes hdeadline) _ hopened
  case bounded =>
    intro paused hpaused
    obtain ⟨visited, hvisited, hpause⟩ := List.mem_filterMap.mp hpaused
    have htimed := forall_pollStates
      (fun run next h ht => (Timed.turn hsettings htakes hdeadline h ht).1) _ hopened visited
      hvisited
    have hpolled := htimed.poll hsettings htakes goal
    rw [(pauseState?_eq_some hpause).1] at hpolled
    exact hpolled.request_le hdeadline
  case expired =>
    intro outcome houtcome hstate
    obtain ⟨before, visited, -, -, hturn⟩ := loop_ended (by rw [houtcome]; exact nofun)
    exact expired_of_turn hturn houtcome hstate
  case cancelled =>
    intro outcome houtcome hstate
    obtain ⟨before, visited, -, -, hturn⟩ := loop_ended (by rw [houtcome]; exact nofun)
    obtain ⟨hcancelled, herror⟩ := cancelled_of_turn hturn houtcome hstate
    obtain ⟨fired, hfollows⟩ := loop_follows (n + 1) (opened settings goal clock surroundings)
    obtain ⟨cause, hcause⟩ := Cancellation.isCancelled_iff.mp hcancelled
    refine ⟨hcancelled, fired, cause, hfollows.alarms, ?_, ?_⟩
    · rw [← Cancellation.ofCalls_cause, ← hfollows.calls hcalls]
      exact hcause
    · rw [herror, Cancellation.shownCause_eq hcause]

/-- Acquisitions that take half a second and fail, until an alarm goes off in a pause. -/
theorem waitFor_keepsTime_interrupted :
    ∃ (source : Source Float Unit) (settings : PollSettings Float) (clock : Clock Float),
      settings.Positive ∧ (∀ surroundings, 0 ≤ (source.acquire surroundings).1.takes) ∧
      Decimal.isFinite clock.now = true ∧ clock.token = .ofCalls [] ∧
      (waitFor source settings (.condition "Applied") clock () 10).2.state = .cancelled ∧
      KeepsTime (.condition "Applied") (clock.now + settings.timeout) [] clock
        (pollStates source settings (.condition "Applied") (clock.now + settings.timeout) 10
          (opened settings (.condition "Applied") clock ()))
        (pauseStates source settings (.condition "Applied") (clock.now + settings.timeout) 10
          (opened settings (.condition "Applied") clock ()))
        (waitFor source settings (.condition "Applied") clock () 10) := by
  refine ⟨⟨fun _ => (⟨0.5, .error (.other "RuntimeError" "")⟩, ()), none⟩, ⟨1, 300, 8⟩,
    ⟨0, [⟨3, "received SIGINT"⟩], .none⟩, ?_, ?_, ?_, rfl, ?_, ?_⟩
  · exact ⟨by decide, by decide, by decide⟩
  · exact fun _ => (by decide : (0 : Float) ≤ 0.5)
  · decide
  · decide
  · exact waitFor_keepsTime _ _ _ _ _ [] 9 ⟨by decide, by decide, by decide⟩
      (fun _ => (by decide : (0 : Float) ≤ 0.5)) (by decide) rfl

end WorkWatch
