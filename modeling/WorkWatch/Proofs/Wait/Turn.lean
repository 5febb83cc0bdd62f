import Mathlib.Data.List.Basic
import WorkWatch.Proofs.Wait.Poll

/-! A wait as a sequence of turns. A turn is a poll with the pause after it; the loop of a wait is
the repetition of its turns. The states in which the polls begin are listed, and whatever every turn
adds to a run is added once for each of them. -/

namespace WorkWatch

/-- What a turn leads to: the end of the wait, or the state in which the next turn begins. -/
inductive Turn (τ σ : Type) where
  | ended (result : Ending τ × Run τ σ)
  | ongoing (run : Run τ σ)

namespace Turn

variable {τ σ : Type}

/-- The run as it is after a turn. -/
def run : Turn τ σ → Run τ σ
  | .ended result => result.2
  | .ongoing run => run

end Turn

namespace Run

open Timescale

variable {τ σ : Type} [Timescale τ]

/-- The end of a wait after a pause, unless it goes on. -/
def wake (settings : PollSettings τ) (goal : Goal) (deadline : τ) (run : Run τ σ) : Turn τ σ :=
  if run.clock.token.isCancelled then .ended (run.finishCancelled goal)
  else if deadline ≤ run.clock.now then .ended (run.finishExpired settings goal)
  else .ongoing run

/-- The end of a wait after a poll. A wait that goes on pauses in the state that is left. -/
def settle (settings : PollSettings τ) (goal : Goal) (deadline : τ) :
    Verdict × Run τ σ → Turn τ σ
  | (.raised fault, run) => .ended (.raised fault, run)
  | (.met, run) => .ended (run.finishMet goal)
  | (.notMet, run) =>
    if run.clock.token.isCancelled then .ended (run.finishCancelled goal)
    else if deadline - run.clock.now ≤ 0 then .ended (run.finishExpired settings goal)
    else .ongoing run

/-- A poll and the pause after it. -/
def turn (source : Source τ σ) (settings : PollSettings τ) (goal : Goal) (deadline : τ)
    (run : Run τ σ) : Turn τ σ :=
  match settle settings goal deadline (run.poll source settings goal) with
  | .ended result => .ended result
  | .ongoing paused => (paused.pause deadline).wake settings goal deadline

theorem loop_succ (source : Source τ σ) (settings : PollSettings τ) (goal : Goal) (deadline : τ)
    (n : Nat) (run : Run τ σ) :
    loop source settings goal deadline (n + 1) run =
      match run.turn source settings goal deadline with
      | .ended result => result
      | .ongoing next => loop source settings goal deadline n next := by
  rw [loop]
  unfold turn settle wake
  obtain ⟨verdict, polled⟩ := run.poll source settings goal
  cases verdict with
  | raised fault => rfl
  | met => rfl
  | notMet =>
    dsimp only
    split
    · rfl
    · split
      · rfl
      · dsimp only
        split
        · rfl
        · split <;> rfl

/-- The states in which the polls of a wait begin. -/
def pollStates (source : Source τ σ) (settings : PollSettings τ) (goal : Goal) (deadline : τ) :
    Nat → Run τ σ → List (Run τ σ)
  | 0, _ => []
  | polls + 1, run =>
    run ::
      match run.turn source settings goal deadline with
      | .ended _ => []
      | .ongoing next => pollStates source settings goal deadline polls next

/-- The state in which a turn pauses, if it comes to that. -/
def pauseState? (source : Source τ σ) (settings : PollSettings τ) (goal : Goal) (deadline : τ)
    (run : Run τ σ) : Option (Run τ σ) :=
  match settle settings goal deadline (run.poll source settings goal) with
  | .ended _ => none
  | .ongoing paused => some paused

variable {source : Source τ σ} {settings : PollSettings τ} {goal : Goal} {deadline : τ}

theorem pollStates_ne_nil (n : Nat) (run : Run τ σ) :
    pollStates source settings goal deadline (n + 1) run ≠ [] := nofun

/-- What the turns preserve holds whenever a poll begins. -/
theorem forall_pollStates {P : Run τ σ → Prop}
    (hstep : ∀ run next, P run → run.turn source settings goal deadline = .ongoing next → P next)
    (n : Nat) : ∀ {run : Run τ σ}, P run →
      ∀ visited ∈ pollStates source settings goal deadline n run, P visited := by
  induction n with
  | zero => exact fun _ _ hmem => absurd hmem List.not_mem_nil
  | succ n ih =>
    intro run hrun visited hmem
    rw [pollStates] at hmem
    rcases List.mem_cons.mp hmem with rfl | hmem
    · exact hrun
    · cases hturn : run.turn source settings goal deadline with
      | ended result =>
        rw [hturn] at hmem
        exact absurd hmem List.not_mem_nil
      | ongoing next =>
        rw [hturn] at hmem
        exact ih (hstep run next hrun hturn) visited hmem

/-- What every turn that goes on leads to holds whenever a poll after the first one begins. -/
theorem forall_tail_pollStates {P Q : Run τ σ → Prop}
    (hstep : ∀ run next, P run → run.turn source settings goal deadline = .ongoing next →
      P next ∧ Q next) (n : Nat) {run : Run τ σ} (hrun : P run) :
    ∀ visited ∈ (pollStates source settings goal deadline n run).tail, Q visited := by
  intro visited hmem
  cases n with
  | zero => exact absurd hmem List.not_mem_nil
  | succ n =>
    rw [pollStates, List.tail_cons] at hmem
    cases hturn : run.turn source settings goal deadline with
    | ended result =>
      rw [hturn] at hmem
      exact absurd hmem List.not_mem_nil
    | ongoing next =>
      rw [hturn] at hmem
      have hboth : ∀ run next, P run ∧ Q run →
          run.turn source settings goal deadline = .ongoing next → P next ∧ Q next :=
        fun run next h ht => hstep run next h.1 ht
      exact (forall_pollStates hboth n (hstep run next hrun hturn) visited hmem).2

/-- A wait that is not cut short goes on until the turn of its last poll, which ends it. -/
theorem loop_ended {n : Nat} : ∀ {run : Run τ σ},
    (loop source settings goal deadline n run).1 ≠ .unfinished →
      ∃ before visited,
        pollStates source settings goal deadline n run = before ++ [visited] ∧
        (∀ earlier ∈ before, ∃ next,
          earlier.turn source settings goal deadline = .ongoing next) ∧
        visited.turn source settings goal deadline =
          .ended (loop source settings goal deadline n run) := by
  induction n with
  | zero => exact fun h => absurd rfl h
  | succ n ih =>
    intro run h
    rw [loop_succ] at h ⊢
    rw [pollStates]
    cases hturn : run.turn source settings goal deadline with
    | ended result => exact ⟨[], run, rfl, fun _ hmem => absurd hmem List.not_mem_nil, hturn⟩
    | ongoing next =>
      rw [hturn] at h
      obtain ⟨before, visited, hstates, hbefore, hended⟩ := ih h
      refine ⟨run :: before, visited, congrArg (run :: ·) hstates, ?_, hended⟩
      intro earlier hmem
      rcases List.mem_cons.mp hmem with rfl | hmem
      · exact ⟨next, hturn⟩
      · exact hbefore earlier hmem

/-- Every poll but the last one is followed by another. -/
theorem ongoing_of_mem_dropLast (n : Nat) : ∀ {run : Run τ σ},
    ∀ earlier ∈ (pollStates source settings goal deadline n run).dropLast,
      ∃ next, earlier.turn source settings goal deadline = .ongoing next := by
  induction n with
  | zero => exact fun _ hmem => absurd hmem List.not_mem_nil
  | succ n ih =>
    intro run earlier hmem
    rw [pollStates] at hmem
    cases hturn : run.turn source settings goal deadline with
    | ended result =>
      rw [hturn] at hmem
      exact absurd hmem List.not_mem_nil
    | ongoing next =>
      rw [hturn] at hmem
      dsimp only at hmem
      by_cases hnone : pollStates source settings goal deadline n next = []
      · rw [hnone] at hmem
        exact absurd hmem List.not_mem_nil
      · rw [List.dropLast_cons_of_ne_nil hnone] at hmem
        rcases List.mem_cons.mp hmem with rfl | hmem
        · exact ⟨next, hturn⟩
        · exact ih earlier hmem

/-- The last poll of a wait that has made any leads to what the wait has come to. -/
theorem loop_of_last {n : Nat} : ∀ {run visited : Run τ σ} {before : List (Run τ σ)},
    pollStates source settings goal deadline n run = before ++ [visited] →
      visited.turn source settings goal deadline =
          .ended (loop source settings goal deadline n run) ∨
        ∃ next, visited.turn source settings goal deadline = .ongoing next ∧
          loop source settings goal deadline n run = (.unfinished, next) := by
  -- The last poll is the first one of a wait that ends with it, and else the last one of the rest.
  induction n with
  | zero =>
    intro run visited before h
    exact absurd h.symm (List.append_ne_nil_of_right_ne_nil before nofun)
  | succ n ih =>
    intro run visited before h
    rw [pollStates] at h
    rw [loop_succ]
    cases hturn : run.turn source settings goal deadline with
    | ended result =>
      rw [hturn] at h
      have hsingle : [] ++ [run] = before ++ [visited] := h
      obtain ⟨-, hvisited⟩ := List.append_inj' hsingle rfl
      cases hvisited
      exact Or.inl hturn
    | ongoing next =>
      rw [hturn] at h
      dsimp only at h ⊢
      cases n with
      | zero =>
        have hsingle : [] ++ [run] = before ++ [visited] := h
        obtain ⟨-, hvisited⟩ := List.append_inj' hsingle rfl
        cases hvisited
        exact Or.inr ⟨next, hturn, rfl⟩
      | succ n =>
        cases before with
        | nil => exact absurd (List.cons.inj h).2 (pollStates_ne_nil n next)
        | cons first before => exact ih (List.cons.inj h).2

theorem loop_preserves {P : Run τ σ → Prop}
    (hstep : ∀ run, P run → P (run.turn source settings goal deadline).run) (n : Nat) :
    ∀ {run : Run τ σ}, P run → P (loop source settings goal deadline n run).2 := by
  induction n with
  | zero => exact fun h => h
  | succ n ih =>
    intro run hrun
    have hnext := hstep run hrun
    rw [loop_succ]
    cases hturn : run.turn source settings goal deadline with
    | ended result =>
      rw [hturn] at hnext
      exact hnext
    | ongoing next =>
      rw [hturn] at hnext
      exact ih hnext

/-- What each turn makes of a part of a run, the wait makes of it turn by turn. -/
theorem loop_foldl {α : Type} (f : Run τ σ → α) (g : α → Run τ σ → α)
    (hstep : ∀ run : Run τ σ, f (run.turn source settings goal deadline).run = g (f run) run)
    (n : Nat) : ∀ run : Run τ σ,
      f (loop source settings goal deadline n run).2 =
        (pollStates source settings goal deadline n run).foldl g (f run) := by
  induction n with
  | zero => exact fun _ => rfl
  | succ n ih =>
    intro run
    have hrun := hstep run
    rw [loop_succ, pollStates, List.foldl_cons, ← hrun]
    cases run.turn source settings goal deadline with
    | ended result => rfl
    | ongoing next => exact ih next

/-- A list to which each turn adds some elements grows by those of all turns. -/
theorem loop_append {β : Type} (f : Run τ σ → List β) (g : Run τ σ → List β)
    (hstep : ∀ run : Run τ σ, f (run.turn source settings goal deadline).run = f run ++ g run)
    (n : Nat) (run : Run τ σ) :
    f (loop source settings goal deadline n run).2 =
      f run ++ (pollStates source settings goal deadline n run).flatMap g := by
  rw [loop_foldl f (fun part run => part ++ g run) hstep, List.foldl_append_eq_append]
  rfl

/-! What a turn changes in a run. -/

/-- The end of a wait changes the state and the notes of its run, and nothing else. -/
theorem settle_frame {β : Type} (f : Run τ σ → β) {polled : Verdict × Run τ σ} {turn : Turn τ σ}
    (hf : ∀ (run : Run τ σ) state notes, f { run with state, notes } = f run)
    (h : settle settings goal deadline polled = turn) : f turn.run = f polled.2 := by
  subst h
  obtain ⟨verdict, run⟩ := polled
  cases verdict with
  | raised fault => rfl
  | met => exact hf run _ _
  | notMet =>
    unfold settle
    dsimp only
    split
    · exact hf run _ _
    · split
      · exact hf run _ _
      · rfl

theorem wake_frame {β : Type} (f : Run τ σ → β) (run : Run τ σ)
    (hf : ∀ (run : Run τ σ) state notes, f { run with state, notes } = f run) :
    f (run.wake settings goal deadline).run = f run := by
  unfold wake
  split
  · exact hf run _ _
  · split
    · exact hf run _ _
    · rfl

/-- The pause of a turn moves the clock and is recorded among the waits. -/
theorem turn_frame {β : Type} (f : Run τ σ → β) (run : Run τ σ)
    (hf : ∀ (run : Run τ σ) clock state waits notes,
      f { run with clock, state, waits, notes } = f run) :
    f (run.turn source settings goal deadline).run = f (run.poll source settings goal).2 := by
  have hends : ∀ (run : Run τ σ) state notes, f { run with state, notes } = f run :=
    fun run state notes => hf run run.clock state run.waits notes
  unfold turn
  split
  · rename_i result hresult
    exact settle_frame f hends hresult
  · rename_i paused hpaused
    rw [← settle_frame f hends hpaused, wake_frame f _ hends]
    exact hf paused _ _ _ _

theorem turn_polledAt (run : Run τ σ) :
    (run.turn source settings goal deadline).run.polledAt = run.polledAt ++ [run.clock.now] :=
  (turn_frame (·.polledAt) run fun _ _ _ _ _ => rfl).trans
    (poll_polledAt source settings goal run)

theorem turn_polls (source : Source τ σ) (settings : PollSettings τ) (goal : Goal) (deadline : τ)
    (run : Run τ σ) : (run.turn source settings goal deadline).run.polls = run.polls + 1 :=
  (turn_frame (·.polls) run fun _ _ _ _ _ => rfl).trans
    (poll_frame source settings goal run (·.polls) fun _ _ _ _ _ _ _ => rfl)

/-- What a pause asks for: the interval, but no more than what is left until the deadline. -/
def request (deadline : τ) (paused : Run τ σ) : τ :=
  lesser paused.backoff.interval (deadline - paused.clock.now)

theorem turn_waits (run : Run τ σ) :
    (run.turn source settings goal deadline).run.waits =
      run.waits ++ (run.pauseState? source settings goal deadline).toList.map fun paused =>
        Clock.asked (paused.request deadline) := by
  rw [← poll_waits source settings goal run]
  unfold turn pauseState?
  split
  · rename_i result hresult
    rw [← settle_frame (·.waits) (fun _ _ _ => rfl) hresult]
    exact (List.append_nil _).symm
  · rename_i paused hpaused
    rw [← settle_frame (·.waits) (fun _ _ _ => rfl) hpaused,
      wake_frame (·.waits) _ fun _ _ _ => rfl]
    rfl

/-- The states in which a wait pauses. -/
def pauseStates (source : Source τ σ) (settings : PollSettings τ) (goal : Goal) (deadline : τ)
    (n : Nat) (run : Run τ σ) : List (Run τ σ) :=
  (pollStates source settings goal deadline n run).filterMap
    (·.pauseState? source settings goal deadline)

theorem loop_polls (n : Nat) (run : Run τ σ) :
    (loop source settings goal deadline n run).2.polls =
      run.polls + (pollStates source settings goal deadline n run).length := by
  rw [loop_foldl (·.polls) (fun polls _ => polls + 1) (turn_polls source settings goal deadline),
    List.foldl_add_const, Nat.one_mul]

theorem length_pollStates_le (n : Nat) : ∀ run : Run τ σ,
    (pollStates source settings goal deadline n run).length ≤ n := by
  induction n with
  | zero => exact fun _ => Nat.le_refl _
  | succ n ih =>
    intro run
    rw [pollStates, List.length_cons]
    cases run.turn source settings goal deadline with
    | ended result => exact Nat.succ_le_succ (Nat.zero_le n)
    | ongoing next => exact Nat.succ_le_succ (ih next)

/-- The record of the polls holds the times at which they begin. -/
theorem loop_polledAt (n : Nat) (run : Run τ σ) :
    (loop source settings goal deadline n run).2.polledAt =
      run.polledAt ++
        (pollStates source settings goal deadline n run).map (·.clock.now) := by
  rw [loop_append (·.polledAt) (fun run => [run.clock.now]) turn_polledAt, List.map_eq_flatMap]

/-- The record of the waits holds what the pauses ask for. -/
theorem loop_waits (n : Nat) (run : Run τ σ) :
    (loop source settings goal deadline n run).2.waits =
      run.waits ++ (pauseStates source settings goal deadline n run).map fun paused =>
        Clock.asked (paused.request deadline) := by
  unfold pauseStates
  rw [loop_append (·.waits) _ turn_waits, List.filterMap_eq_flatMap_toList, List.map_flatMap]

/-- The state in which the first poll of a wait begins. -/
def opened (settings : PollSettings τ) (goal : Goal) (clock : Clock τ) (surroundings : σ) :
    Run τ σ :=
  { (start settings clock surroundings).note
      (.started goal settings.interval settings.timeout) with state := .polling }

theorem waitFor_eq (source : Source τ σ) (settings : PollSettings τ) (goal : Goal)
    (clock : Clock τ) (surroundings : σ) (n : Nat) :
    waitFor source settings goal clock surroundings n =
      loop source settings goal (clock.now + settings.timeout) n
        (opened settings goal clock surroundings) := rfl

end Run

end WorkWatch
