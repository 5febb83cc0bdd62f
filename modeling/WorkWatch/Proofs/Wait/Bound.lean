import Mathlib.Data.Rat.Floor
import WorkWatch.Proofs.Wait.Ending

/-! How many polls a wait can make, reckoned with exact fractions. From the beginning of a poll to
that of the next one the clock advances by the poll interval or by its cap at least, whichever is
less, and every poll begins before the deadline; so the timeout bounds their number. -/

namespace WorkWatch

namespace Timescale

theorem lesser_eq_min (a b : Rat) : lesser a b = min a b := by
  unfold lesser
  split
  · rename_i h
    exact (min_eq_right (le_of_lt h)).symm
  · rename_i h
    exact (min_eq_left (le_of_not_gt h)).symm

theorem scale_eq_mul_pow (x : Rat) (n : Nat) : scale x n = x * 2 ^ n := by
  have hpower : mkRat (Decimal.twoTo n) 1 = 2 ^ n := by
    change mkRat ((2 ^ n : Nat) : Int) 1 = 2 ^ n
    rw [Rat.mkRat_one]
    norm_cast
  exact congrArg (x * ·) hpower

end Timescale

open Timescale

namespace Clock

section

variable {τ : Type} [Timescale τ]

/-- Alarms do not hold up time that passes unwatched. -/
theorem passTo_unwatched (target : τ) (alarms : List (Alarm τ)) :
    ∀ (now : τ) (token : Cancellation),
      (passTo false target now token alarms).now = target := by
  induction alarms with
  | nil => exact fun _ _ => rfl
  | cons alarm rest ih =>
    intro now token
    rw [passTo]
    split
    · exact ih _ _
    · rfl

/-- Time that is watched passes to the end, unless that leaves it cancelled. -/
theorem passTo_watched (target : τ) (alarms : List (Alarm τ)) :
    ∀ (now : τ) (token : Cancellation),
      (passTo true target now token alarms).token.isCancelled = false →
        (passTo true target now token alarms).now = target := by
  induction alarms with
  | nil => exact fun _ _ _ => rfl
  | cons alarm rest ih =>
    intro now token h
    rw [passTo] at h ⊢
    split at h
    · rename_i hdue
      rw [if_pos hdue]
      dsimp only at h ⊢
      split at h
      · rename_i hcancelled
        rw [Bool.true_and] at hcancelled
        rw [hcancelled] at h
        cases h
      · rename_i hcancelled
        rw [if_neg hcancelled]
        exact ih _ _ h
    · rename_i hdue
      rw [if_neg hdue]

theorem sleep_now {clock : Clock τ} {duration : τ}
    (h : (clock.sleep duration).token.isCancelled = false) :
    (clock.sleep duration).now = clock.now + asked duration := by
  unfold sleep at h ⊢
  split at h
  · rename_i hcancelled
    rw [hcancelled] at h
    cases h
  · rename_i hopen
    rw [if_neg hopen]
    exact passTo_watched _ _ _ _ h

end

theorem spend_now (clock : Clock Rat) (duration : Rat) :
    (clock.spend duration).now = clock.now + duration := by
  unfold spend
  split
  · rename_i hzero
    have hzero' : duration = 0 := of_decide_eq_true hzero
    rw [hzero', add_zero]
  · exact passTo_unwatched _ _ _ _

theorem le_asked (duration : Rat) : duration ≤ asked duration := by
  unfold asked
  split
  · exact le_refl duration
  · rename_i h
    exact le_of_not_gt h

end Clock

namespace PollSettings

/-- The poll interval or its cap, whichever is less. -/
def leastInterval (settings : PollSettings Rat) : Rat := min settings.interval settings.cap

/-- The number of least intervals that fit into the timeout, rounded up. -/
def mostPolls (settings : PollSettings Rat) : Nat := ⌈settings.timeout / settings.leastInterval⌉₊

variable {settings : PollSettings Rat}

theorem leastInterval_pos (hinterval : 0 < settings.interval) (hcap : 0 < settings.cap) :
    0 < settings.leastInterval := lt_min hinterval hcap

/-- No number of failures leads to less than the least interval. -/
theorem leastInterval_le_intervalAfter (hinterval : 0 < settings.interval) {failures : Nat}
    {interval : Rat} (h : settings.intervalAfter failures = .ok interval) :
    settings.leastInterval ≤ interval := by
  cases failures with
  | zero =>
    cases h
    exact min_le_left _ _
  | succ failures =>
    rw [intervalAfter] at h
    split at h
    · cases h
    · cases h
      have hpower : (1 : Rat) ≤ 2 ^ failures := one_le_pow₀ one_le_two
      have hscale : settings.interval ≤ scale settings.interval failures := by
        rw [scale_eq_mul_pow]
        exact le_mul_of_one_le_right (le_of_lt hinterval) hpower
      rw [lesser_eq_min]
      exact min_le_min_right settings.cap hscale

end PollSettings

theorem Backoff.leastInterval_le_failure {settings : PollSettings Rat}
    (hinterval : 0 < settings.interval) {backoff : Backoff Rat}
    (h : settings.leastInterval ≤ backoff.interval) :
    settings.leastInterval ≤ (backoff.failure settings).interval := by
  unfold failure
  split
  · rename_i interval hafter
    exact PollSettings.leastInterval_le_intervalAfter hinterval hafter
  · exact h

namespace Run

section

variable {τ σ : Type} [Timescale τ] {source : Source τ σ} {settings : PollSettings τ} {goal : Goal}
  {deadline : τ}

theorem loop_polls_le (n : Nat) (run : Run τ σ) :
    (loop source settings goal deadline n run).2.polls ≤ run.polls + n := by
  rw [loop_polls]
  exact Nat.add_le_add_left (length_pollStates_le n run) _

theorem ended_ne_unfinished {run : Run τ σ} {result : Ending τ × Run τ σ}
    (h : run.turn source settings goal deadline = .ended result) : result.1 ≠ .unfinished := by
  cases goes_of_turn h <;> exact nofun

/-- A wait that has ended is not changed by allowing it more polls. -/
theorem loop_of_le {n : Nat} : ∀ {m : Nat} {run : Run τ σ},
    (loop source settings goal deadline n run).1 ≠ .unfinished → n ≤ m →
      loop source settings goal deadline m run = loop source settings goal deadline n run := by
  induction n with
  | zero => exact fun h => absurd rfl h
  | succ n ih =>
    intro m run h hle
    obtain ⟨m, rfl⟩ := Nat.exists_eq_succ_of_ne_zero (Nat.ne_zero_of_lt hle)
    rw [loop_succ] at h
    rw [loop_succ, loop_succ]
    cases hturn : run.turn source settings goal deadline with
    | ended result => rfl
    | ongoing next =>
      rw [hturn] at h
      exact ih h (Nat.le_of_succ_le_succ hle)

theorem loop_within {m : Nat} {run : Run τ σ}
    (h : (loop source settings goal deadline m run).1 ≠ .unfinished) (n : Nat) :
    (loop source settings goal deadline n run).2.polls ≤ run.polls + m ∧
    (m ≤ n → (loop source settings goal deadline n run).1 ≠ .unfinished ∧
      loop source settings goal deadline n run = loop source settings goal deadline m run) := by
  constructor
  · rcases Nat.le_total m n with hle | hle
    · rw [loop_of_le h hle]
      exact loop_polls_le m run
    · exact Nat.le_trans (loop_polls_le n run) (Nat.add_le_add_left hle _)
  · intro hle
    have hsame := loop_of_le h hle
    rw [hsame]
    exact ⟨h, rfl⟩

end

variable {σ : Type} {source : Source Rat σ} {settings : PollSettings Rat} {goal : Goal}
  {deadline : Rat}

theorem leastInterval_le_poll (source : Source Rat σ) (hinterval : 0 < settings.interval)
    {run : Run Rat σ} (h : settings.leastInterval ≤ run.backoff.interval) (goal : Goal) :
    settings.leastInterval ≤ (run.poll source settings goal).2.backoff.interval := by
  cases goal with
  | condition expression =>
    change _ ≤ (run.pollCondition source settings expression).2.backoff.interval
    rw [pollCondition_backoff]
    split
    · exact Backoff.leastInterval_le_failure hinterval h
    · exact min_le_left _ _
  | deletion =>
    change _ ≤ (run.pollDeletion source).2.backoff.interval
    rw [pollDeletion_backoff]
    exact h

/-- A turn that goes on takes the least interval, and the next one begins before the deadline. -/
theorem turn_advances (hinterval : 0 < settings.interval)
    (htakes : ∀ surroundings, 0 ≤ (source.acquire surroundings).1.takes) {run next : Run Rat σ}
    (hrun : settings.leastInterval ≤ run.backoff.interval)
    (hturn : run.turn source settings goal deadline = .ongoing next) :
    settings.leastInterval ≤ next.backoff.interval ∧ next.clock.now < deadline ∧
      run.clock.now + settings.leastInterval ≤ next.clock.now := by
  cases goes_of_turn hturn with
  | @on polled hpoll hopen hleft hstill hbefore =>
    have hpolled := leastInterval_le_poll source hinterval hrun goal
    have hclock := poll_clock source settings goal run
    rw [hpoll] at hpolled hclock
    have hpassed : polled.clock.now = run.clock.now + _ :=
      (congrArg Clock.now hclock).trans (Clock.spend_now run.clock _)
    have hslept : (polled.pause deadline).clock.now =
        polled.clock.now + Clock.asked (polled.request deadline) := Clock.sleep_now hstill
    have hnext : (polled.pause deadline).clock.now < deadline := lt_of_not_ge hbefore
    have hasked := Clock.le_asked (polled.request deadline)
    have htime := htakes run.surroundings
    -- a request for all that is left would have led up to the deadline
    have hrequest : polled.request deadline = polled.backoff.interval := by
      have hleast : polled.request deadline =
          min polled.backoff.interval (deadline - polled.clock.now) := lesser_eq_min _ _
      rcases min_choice polled.backoff.interval (deadline - polled.clock.now) with h | h
      · exact hleast.trans h
      · rw [h] at hleast
        linarith
    refine ⟨hpolled, hnext, ?_⟩
    linarith

/-- As many turns as have least intervals that reach the deadline end a wait. -/
theorem loop_ne_unfinished (hinterval : 0 < settings.interval)
    (htakes : ∀ surroundings, 0 ≤ (source.acquire surroundings).1.takes) (n : Nat) :
    ∀ {run : Run Rat σ}, settings.leastInterval ≤ run.backoff.interval →
      run.clock.now < deadline → deadline ≤ run.clock.now + n * settings.leastInterval →
      (loop source settings goal deadline n run).1 ≠ .unfinished := by
  induction n with
  | zero =>
    intro run _ hnow hdeadline
    rw [Nat.cast_zero, zero_mul, add_zero] at hdeadline
    exact absurd hdeadline (not_le_of_gt hnow)
  | succ n ih =>
    intro run hrun hnow hdeadline
    rw [loop_succ]
    cases hturn : run.turn source settings goal deadline with
    | ended result => exact ended_ne_unfinished hturn
    | ongoing next =>
      obtain ⟨hinterval', hnow', hadvance⟩ := turn_advances hinterval htakes hrun hturn
      apply ih hinterval' hnow'
      rw [Nat.cast_succ, add_mul, one_mul] at hdeadline
      linarith

end Run

open Run

/-- On a clock of exact fractions every wait ends, whatever its acquisitions give and however long
they take, and whatever cancels it: it makes no more polls than least intervals fit into the
timeout, rounded up. A wait that fails has ended, too. -/
theorem waitFor_polls_le {σ : Type} (source : Source Rat σ) (settings : PollSettings Rat)
    (goal : Goal) (clock : Clock Rat) (surroundings : σ) (hinterval : 0 < settings.interval)
    (hcap : 0 < settings.cap) (htimeout : 0 < settings.timeout)
    (htakes : ∀ surroundings, 0 ≤ (source.acquire surroundings).1.takes) (n : Nat) :
    (waitFor source settings goal clock surroundings n).2.polls ≤ settings.mostPolls ∧
    (settings.mostPolls ≤ n →
      (waitFor source settings goal clock surroundings n).1 ≠ .unfinished ∧
      waitFor source settings goal clock surroundings n =
        waitFor source settings goal clock surroundings settings.mostPolls) := by
  have hleast := settings.leastInterval_pos hinterval hcap
  have hfits : settings.timeout ≤ settings.mostPolls * settings.leastInterval :=
    (div_le_iff₀ hleast).mp (Nat.le_ceil _)
  have hnow : clock.now < clock.now + settings.timeout := lt_add_of_pos_right _ htimeout
  have hreached : clock.now + settings.timeout ≤
      clock.now + settings.mostPolls * settings.leastInterval := by linarith
  have hends : (waitFor source settings goal clock surroundings settings.mostPolls).1 ≠
      .unfinished := by
    rw [waitFor_eq]
    exact loop_ne_unfinished hinterval htakes settings.mostPolls (min_le_left _ _) hnow hreached
  rw [waitFor_eq] at hends
  obtain ⟨hpolls, hmore⟩ := loop_within hends n
  refine ⟨?_, hmore⟩
  have hnone : (opened settings goal clock surroundings).polls = 0 := rfl
  rw [hnone, Nat.zero_add] at hpolls
  exact hpolls

/-- Acquisitions that take half a second and fail: with the pauses after them, of one second, two
seconds and what is left, they are three where five are the most. -/
theorem waitFor_polls_le_failing :
    ∃ (source : Source Rat Unit) (settings : PollSettings Rat) (clock : Clock Rat),
      0 < settings.interval ∧ 0 < settings.cap ∧ 0 < settings.timeout ∧
      (∀ surroundings, 0 ≤ (source.acquire surroundings).1.takes) ∧ settings.mostPolls = 5 ∧
      (waitFor source settings (.condition "Applied") clock () 5).2.polls = 3 ∧
      (waitFor source settings (.condition "Applied") clock () 5).1 ≠ .unfinished := by
  have htakes : (0 : Rat) ≤ 1 / 2 := by norm_num
  have hmost : (⟨1, 5, 8⟩ : PollSettings Rat).mostPolls = 5 := by
    have hfits : (5 : Rat) / min 1 8 = (5 : Nat) := by norm_num
    exact (congrArg Nat.ceil hfits).trans (Nat.ceil_natCast 5)
  refine ⟨⟨fun _ => (⟨1 / 2, .error (.other "RuntimeError" "")⟩, ()), none⟩, ⟨1, 5, 8⟩,
    ⟨0, [], .none⟩, by decide, by decide, by decide, fun _ => htakes, hmost, ?_, ?_⟩
  · decide +kernel
  · exact ((waitFor_polls_le _ _ _ _ _ (by decide) (by decide) (by decide) (fun _ => htakes) 5).2
      (Nat.le_of_eq hmost)).1

end WorkWatch
