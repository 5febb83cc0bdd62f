import WorkWatch.Proofs.Wait.Turn

/-! How a turn can go and how a wait can end. Every case of a turn is named once, with what its poll
says and what the clock then shows; the outcome of a wait only repeats what its run has come to. -/

namespace WorkWatch

/-- The outcome of a wait that has one. -/
def Ending.outcome? {τ : Type} : Ending τ → Option (WaitOutcome τ)
  | .outcome told => some told
  | .raised _ => none
  | .unfinished => none

theorem Ending.outcome?_eq_some_iff {τ : Type} {ending : Ending τ} {told : WaitOutcome τ} :
    ending.outcome? = some told ↔ ending = .outcome told := by
  cases ending <;> simp [outcome?]

namespace Run

open Timescale

variable {τ σ : Type} {settings : PollSettings τ} {goal : Goal}

/-- The error of an outcome goes with its state. -/
inductive Closes (settings : PollSettings τ) (goal : Goal) :
    WaitState → Option (WaitError τ) → Prop
  | met : Closes settings goal .conditionMet none
  | expired : Closes settings goal .expired (some (.timedOut settings.timeout goal))
  | cancelled (cause : String) :
      Closes settings goal .cancelled (some (.cancelled goal cause))

theorem Closes.kinds {state : WaitState} {error : Option (WaitError τ)}
    (h : Closes settings goal state error) :
    (error = none ↔ state = .conditionMet) ∧
      (error.map (·.kind) = some "WaitTimeoutError" ↔ state = .expired) ∧
      (error.map (·.kind) = some "WaitCancelledError" ↔ state = .cancelled) := by
  cases h <;> simp [WaitError.kind]

variable [Timescale τ] {source : Source τ σ} {deadline : τ}

/-- How a turn can go: by what its poll says, and by what has happened until the poll and until the
pause were over. -/
inductive Goes (source : Source τ σ) (settings : PollSettings τ) (goal : Goal) (deadline : τ)
    (run : Run τ σ) : Turn τ σ → Prop
  | raised {fault : WaitFault} {polled : Run τ σ}
      (hpoll : run.poll source settings goal = (.raised fault, polled)) :
      Goes source settings goal deadline run (.ended (.raised fault, polled))
  | met {polled : Run τ σ} (hpoll : run.poll source settings goal = (.met, polled)) :
      Goes source settings goal deadline run (.ended (polled.finishMet goal))
  | cancelled {polled : Run τ σ} (hpoll : run.poll source settings goal = (.notMet, polled))
      (hcancelled : polled.clock.token.isCancelled = true) :
      Goes source settings goal deadline run (.ended (polled.finishCancelled goal))
  | expired {polled : Run τ σ} (hpoll : run.poll source settings goal = (.notMet, polled))
      (hopen : polled.clock.token.isCancelled = false)
      (hleft : deadline - polled.clock.now ≤ 0) :
      Goes source settings goal deadline run (.ended (polled.finishExpired settings goal))
  | cancelledInPause {polled : Run τ σ}
      (hpoll : run.poll source settings goal = (.notMet, polled))
      (hopen : polled.clock.token.isCancelled = false)
      (hleft : ¬ deadline - polled.clock.now ≤ 0)
      (hcancelled : (polled.pause deadline).clock.token.isCancelled = true) :
      Goes source settings goal deadline run
        (.ended ((polled.pause deadline).finishCancelled goal))
  | expiredInPause {polled : Run τ σ}
      (hpoll : run.poll source settings goal = (.notMet, polled))
      (hopen : polled.clock.token.isCancelled = false)
      (hleft : ¬ deadline - polled.clock.now ≤ 0)
      (hstill : (polled.pause deadline).clock.token.isCancelled = false)
      (hpast : deadline ≤ (polled.pause deadline).clock.now) :
      Goes source settings goal deadline run
        (.ended ((polled.pause deadline).finishExpired settings goal))
  | on {polled : Run τ σ} (hpoll : run.poll source settings goal = (.notMet, polled))
      (hopen : polled.clock.token.isCancelled = false)
      (hleft : ¬ deadline - polled.clock.now ≤ 0)
      (hstill : (polled.pause deadline).clock.token.isCancelled = false)
      (hbefore : ¬ deadline ≤ (polled.pause deadline).clock.now) :
      Goes source settings goal deadline run (.ongoing (polled.pause deadline))

theorem goes_of_turn {run : Run τ σ} {turn : Turn τ σ}
    (h : run.turn source settings goal deadline = turn) :
    Goes source settings goal deadline run turn := by
  rw [← h]
  unfold Run.turn settle wake
  cases hpoll : run.poll source settings goal with
  | mk verdict polled =>
    cases verdict with
    | raised fault => exact .raised hpoll
    | met => exact .met hpoll
    | notMet =>
      dsimp only
      by_cases hopen : polled.clock.token.isCancelled = true
      · rw [if_pos hopen]
        exact .cancelled hpoll hopen
      · rw [if_neg hopen]
        rw [Bool.not_eq_true] at hopen
        by_cases hleft : deadline - polled.clock.now ≤ 0
        · rw [if_pos hleft]
          exact .expired hpoll hopen hleft
        · rw [if_neg hleft]
          dsimp only
          by_cases hstill : (polled.pause deadline).clock.token.isCancelled = true
          · rw [if_pos hstill]
            exact .cancelledInPause hpoll hopen hleft hstill
          · rw [if_neg hstill]
            rw [Bool.not_eq_true] at hstill
            by_cases hpast : deadline ≤ (polled.pause deadline).clock.now
            · rw [if_pos hpast]
              exact .expiredInPause hpoll hopen hleft hstill hpast
            · rw [if_neg hpast]
              exact .on hpoll hopen hleft hstill hpast

/-- A turn ends a wait with its goal reached where its poll says so. -/
theorem Goes.met_iff {run : Run τ σ} {turn : Turn τ σ}
    (h : Goes source settings goal deadline run turn) :
    (∃ outcome last, turn = .ended (.outcome outcome, last) ∧ outcome.state = .conditionMet) ↔
      (run.poll source settings goal).1 = .met := by
  cases h with
  | met hpoll =>
    rw [hpoll]
    exact ⟨fun _ => rfl, fun _ => ⟨_, _, rfl, rfl⟩⟩
  | raised hpoll | cancelled hpoll | expired hpoll | cancelledInPause hpoll | expiredInPause hpoll
  | on hpoll =>
    rw [hpoll]
    refine ⟨?_, nofun⟩
    rintro ⟨outcome, last, hturn, hstate⟩
    cases hturn <;> cases hstate

/-- Whether a wait reaches its goal is told by its last poll. -/
theorem loop_met_iff_of_last {n : Nat} {run visited : Run τ σ} {before : List (Run τ σ)}
    (h : pollStates source settings goal deadline n run = before ++ [visited]) :
    (∃ outcome, (loop source settings goal deadline n run).1 = .outcome outcome ∧
        outcome.state = .conditionMet) ↔ (visited.poll source settings goal).1 = .met := by
  rw [← (goes_of_turn (Eq.refl (visited.turn source settings goal deadline))).met_iff]
  rcases loop_of_last h with hturn | ⟨next, hturn, hloop⟩
  · rw [hturn]
    constructor
    · rintro ⟨outcome, houtcome, hstate⟩
      exact ⟨outcome, _, congrArg Turn.ended (Prod.ext houtcome rfl), hstate⟩
    · rintro ⟨outcome, last, hended, hstate⟩
      exact ⟨outcome, congrArg Prod.fst (Turn.ended.inj hended), hstate⟩
  · rw [hturn, hloop]
    constructor
    · rintro ⟨outcome, houtcome, -⟩
      cases houtcome
    · rintro ⟨outcome, last, hended, -⟩
      cases hended

theorem pauseState?_eq_some {run paused : Run τ σ}
    (h : run.pauseState? source settings goal deadline = some paused) :
    run.poll source settings goal = (.notMet, paused) ∧
      paused.clock.token.isCancelled = false ∧ ¬ deadline - paused.clock.now ≤ 0 := by
  unfold pauseState? settle at h
  cases hpoll : run.poll source settings goal with
  | mk verdict polled =>
    rw [hpoll] at h
    cases verdict with
    | raised fault => cases h
    | met => cases h
    | notMet =>
      dsimp only at h
      by_cases hopen : polled.clock.token.isCancelled = true
      · rw [if_pos hopen] at h
        cases h
      · rw [if_neg hopen] at h
        by_cases hleft : deadline - polled.clock.now ≤ 0
        · rw [if_pos hleft] at h
          cases h
        · rw [if_neg hleft] at h
          cases h
          exact ⟨rfl, Bool.not_eq_true _ ▸ hopen, hleft⟩

/-- An outcome tells what the run has come to. -/
structure Tells (settings : PollSettings τ) (goal : Goal) (outcome : WaitOutcome τ)
    (run : Run τ σ) : Prop where
  closes : Closes settings goal outcome.state outcome.error
  goal : outcome.goal = goal
  state : outcome.state = run.state
  polls : outcome.polls = run.polls
  failures : outcome.failures = run.failures
  last : outcome.last = run.last

theorem tells_of_turn {visited : Run τ σ} {result : Ending τ × Run τ σ}
    (hturn : visited.turn source settings goal deadline = .ended result)
    {outcome : WaitOutcome τ} (houtcome : result.1 = .outcome outcome) :
    Tells settings goal outcome result.2 := by
  cases goes_of_turn hturn with
  | raised hpoll => cases houtcome
  | met hpoll => cases houtcome; exact ⟨.met, rfl, rfl, rfl, rfl, rfl⟩
  | cancelled hpoll hcancelled => cases houtcome; exact ⟨.cancelled _, rfl, rfl, rfl, rfl, rfl⟩
  | expired hpoll hopen hleft => cases houtcome; exact ⟨.expired, rfl, rfl, rfl, rfl, rfl⟩
  | cancelledInPause hpoll hopen hleft hcancelled =>
    cases houtcome
    exact ⟨.cancelled _, rfl, rfl, rfl, rfl, rfl⟩
  | expiredInPause hpoll hopen hleft hstill hpast =>
    cases houtcome
    exact ⟨.expired, rfl, rfl, rfl, rfl, rfl⟩

theorem tells_of_loop {n : Nat} {run : Run τ σ} {outcome : WaitOutcome τ}
    (h : (loop source settings goal deadline n run).1 = .outcome outcome) :
    Tells settings goal outcome (loop source settings goal deadline n run).2 := by
  obtain ⟨before, visited, -, -, hturn⟩ := loop_ended (by rw [h]; exact nofun)
  exact tells_of_turn hturn h

end Run

end WorkWatch
