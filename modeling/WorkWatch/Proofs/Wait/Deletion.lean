import Mathlib.Data.List.Induction
import WorkWatch.Proofs.Wait.Account

/-! Waits for a deletion. They share the loop of the waits for a condition, but not its backoff: the
interval stays as it was set, and only a poll that finds the work gone reaches the goal. -/

namespace WorkWatch

/-- A poll got the answer that the work is gone. -/
def saysGone : Except Failure Snapshot → Bool
  | .error failure => failure.reason.isGone
  | .ok _ => false

/-- A poll failed without learning that the work is gone. -/
def isSetback : Except Failure Snapshot → Bool
  | .error failure => !failure.reason.isGone
  | .ok _ => false

theorem foldl_setbacks (got : List (Except Failure Snapshot)) : ∀ failures : Nat,
    got.foldl (fun failures result => if isSetback result then failures + 1 else failures)
      failures = failures + got.countP isSetback := by
  induction got with
  | nil => exact fun _ => rfl
  | cons result got ih =>
    intro failures
    rw [List.foldl_cons, ih, List.countP_cons]
    split <;> omega

namespace Run

open Timescale

variable {τ σ : Type} [Timescale τ] {source : Source τ σ} {settings : PollSettings τ}
  {deadline : τ}

theorem pollDeletion_verdict (source : Source τ σ) (run : Run τ σ) :
    (run.pollDeletion source).1 =
      if saysGone (run.acquired source) then .met else .notMet := by
  cases h : run.acquired source with
  | error failure =>
    rw [pollDeletion_error h]
    unfold saysGone
    split <;> rfl
  | ok snapshot =>
    rw [pollDeletion_ok h]
    rfl

theorem pollDeletion_met_iff {run : Run τ σ} :
    (run.pollDeletion source).1 = .met ↔ saysGone (run.acquired source) = true := by
  rw [pollDeletion_verdict]
  cases saysGone (run.acquired source) <;> simp

theorem pollDeletion_notMet_iff {run : Run τ σ} :
    (run.pollDeletion source).1 = .notMet ↔ saysGone (run.acquired source) = false := by
  rw [pollDeletion_verdict]
  cases saysGone (run.acquired source) <;> simp

theorem pollDeletion_failures (source : Source τ σ) (run : Run τ σ) :
    (run.pollDeletion source).2.failures =
      if isSetback (run.acquired source) then run.failures + 1 else run.failures := by
  cases h : run.acquired source with
  | error failure =>
    rw [pollDeletion_error h]
    change _ = if (!failure.reason.isGone) = true then _ else _
    cases failure.reason.isGone <;> rfl
  | ok snapshot =>
    rw [pollDeletion_ok h]
    rfl

/-- No turn of a deletion wait changes the backoff. -/
theorem turn_deletion_backoff (source : Source τ σ) (settings : PollSettings τ) (deadline : τ)
    (run : Run τ σ) :
    (run.turn source settings .deletion deadline).run.backoff = run.backoff :=
  (turn_frame (·.backoff) run fun _ _ _ _ _ => rfl).trans (pollDeletion_backoff source run)

theorem pauseState?_backoff {run paused : Run τ σ}
    (h : run.pauseState? source settings .deletion deadline = some paused) :
    paused.backoff = run.backoff := by
  rw [← pollDeletion_backoff source run]
  exact congrArg (·.2.backoff) (pauseState?_eq_some h).1.symm

theorem loop_deletion_failures (source : Source τ σ) (settings : PollSettings τ) (deadline : τ)
    (n : Nat) (run : Run τ σ) :
    (loop source settings .deletion deadline n run).2.failures =
      run.failures + (gets source settings .deletion deadline n run).countP isSetback := by
  rw [gets, ← foldl_setbacks, List.foldl_map]
  refine loop_foldl (·.failures)
    (fun failures run => if isSetback (run.acquired source) then failures + 1 else failures)
    (fun run => ?_) n run
  exact (turn_frame (·.failures) run fun _ _ _ _ _ => rfl).trans
    (pollDeletion_failures source run)

/-- Unless a poll finds the work gone, only a cancellation or the clock ends a deletion wait. -/
theorem Goes.stopped {visited : Run τ σ} {result : Ending τ × Run τ σ}
    (h : Goes source settings .deletion deadline visited (.ended result))
    (hpresent : saysGone (visited.acquired source) = false) :
    result.2.clock.token.isCancelled = true ∨ deadline - result.2.clock.now ≤ 0 ∨
      deadline ≤ result.2.clock.now := by
  have hpoll : (visited.poll source settings .deletion).1 = .notMet :=
    pollDeletion_notMet_iff.mpr hpresent
  cases h with
  | raised hraised =>
    rw [hraised] at hpoll
    cases hpoll
  | met hmet =>
    rw [hmet] at hpoll
    cases hpoll
  | cancelled _ hcancelled => exact Or.inl hcancelled
  | expired _ _ hleft => exact Or.inr (Or.inl hleft)
  | cancelledInPause _ _ _ hcancelled => exact Or.inl hcancelled
  | expiredInPause _ _ _ _ hpast => exact Or.inr (Or.inr hpast)

/-- What a deletion wait keeps to, by the states in which its polls begin, those in which it pauses,
and its end. -/
structure KeepsPace (source : Source τ σ) (settings : PollSettings τ) (deadline : τ)
    (states pauses : List (Run τ σ)) (result : Ending τ × Run τ σ) : Prop where
  /-- The work still there, or a failure that does not tell, neither reaches the goal nor changes
  the backoff; then only the token or the clock ends the wait. -/
  goesOn : ∀ visited ∈ states, saysGone (visited.acquired source) = false →
    (visited.poll source settings .deletion).1 = .notMet ∧
    (visited.poll source settings .deletion).2.backoff = visited.backoff ∧
    ∀ last, visited.turn source settings .deletion deadline = .ended last →
      last.2.clock.token.isCancelled = true ∨ deadline - last.2.clock.now ≤ 0 ∨
        deadline ≤ last.2.clock.now
  met : (∃ outcome, result.1 = .outcome outcome ∧ outcome.state = .conditionMet) ↔
    ∃ visited, states.getLast? = some visited ∧ saysGone (visited.acquired source) = true
  earlier : ∀ visited ∈ states.dropLast, saysGone (visited.acquired source) = false
  waits : result.2.waits = pauses.map fun paused =>
    Clock.asked (lesser settings.interval (deadline - paused.clock.now))
  steady : ∀ run ∈ result.2 :: (states ++ pauses),
    run.backoff.failures = 0 ∧ run.backoff.interval = settings.interval
  failures : result.2.failures = (states.map (·.acquired source)).countP isSetback
  told : ∀ outcome, result.1 = .outcome outcome →
    outcome.failures = (states.map (·.acquired source)).countP isSetback

theorem loop_deletion_met_iff {n : Nat} {run : Run τ σ} :
    (∃ outcome, (loop source settings .deletion deadline n run).1 = .outcome outcome ∧
        outcome.state = .conditionMet) ↔
      ∃ visited, (pollStates source settings .deletion deadline n run).getLast? = some visited ∧
        saysGone (visited.acquired source) = true := by
  rcases List.eq_nil_or_concat' (pollStates source settings .deletion deadline n run) with
    hnone | ⟨before, visited, hstates⟩
  · cases n with
    | zero =>
      constructor
      · rintro ⟨outcome, houtcome, -⟩
        cases houtcome
      · rintro ⟨visited, hlast, -⟩
        cases hlast
    | succ n => exact absurd hnone (pollStates_ne_nil n run)
  · rw [loop_met_iff_of_last hstates, hstates, List.getLast?_concat]
    constructor
    · exact fun hmet => ⟨visited, rfl, pollDeletion_met_iff.mp hmet⟩
    · rintro ⟨_, hlast, hgone⟩
      cases hlast
      exact pollDeletion_met_iff.mpr hgone

/-- Whenever a deletion wait polls or pauses its backoff is the one that it began with. -/
theorem loop_deletion_backoff (source : Source τ σ) (settings : PollSettings τ) (deadline : τ)
    (n : Nat) (run : Run τ σ) :
    ∀ later ∈ (loop source settings .deletion deadline n run).2 ::
        (pollStates source settings .deletion deadline n run ++
          pauseStates source settings .deletion deadline n run),
      later.backoff = run.backoff := by
  have hpolls : ∀ visited ∈ pollStates source settings .deletion deadline n run,
      visited.backoff = run.backoff :=
    forall_pollStates (fun visited next h hturn => by
      have hnext := turn_deletion_backoff source settings deadline visited
      rw [hturn] at hnext
      exact hnext.trans h) n rfl
  intro later hmem
  rcases List.mem_cons.mp hmem with rfl | hmem
  · exact loop_preserves (P := fun later => later.backoff = run.backoff)
      (fun visited h => (turn_deletion_backoff source settings deadline visited).trans h) n rfl
  · rcases List.mem_append.mp hmem with hmem | hmem
    · exact hpolls later hmem
    · obtain ⟨visited, hvisited, hpause⟩ := List.mem_filterMap.mp hmem
      exact (pauseState?_backoff hpause).trans (hpolls visited hvisited)

end Run

open Run

/-- A deletion wait reaches its goal exactly with its first poll that finds the work gone. It never
backs off: every pause asks for the poll interval or for what is left, and the failures that it
counts are those that do not tell that the work is gone. -/
theorem waitFor_keepsPace {τ σ : Type} [Timescale τ] (source : Source τ σ)
    (settings : PollSettings τ) (clock : Clock τ) (surroundings : σ) (n : Nat) :
    KeepsPace source settings (clock.now + settings.timeout)
      (pollStates source settings .deletion (clock.now + settings.timeout) n
        (opened settings .deletion clock surroundings))
      (pauseStates source settings .deletion (clock.now + settings.timeout) n
        (opened settings .deletion clock surroundings))
      (waitFor source settings .deletion clock surroundings n) := by
  rw [waitFor_eq]
  generalize clock.now + settings.timeout = deadline
  have hbackoff := loop_deletion_backoff source settings deadline n
    (opened settings .deletion clock surroundings)
  have hfailures := loop_deletion_failures source settings deadline n
    (opened settings .deletion clock surroundings)
  constructor
  case goesOn =>
    intro visited _ hpresent
    exact ⟨pollDeletion_notMet_iff.mpr hpresent, pollDeletion_backoff source visited,
      fun last hturn => (goes_of_turn hturn).stopped hpresent⟩
  case met => exact loop_deletion_met_iff
  case earlier =>
    intro visited hmem
    obtain ⟨next, hturn⟩ := ongoing_of_mem_dropLast n visited hmem
    cases goes_of_turn hturn with
    | on hpoll => exact pollDeletion_notMet_iff.mp (congrArg Prod.fst hpoll)
  case waits =>
    rw [loop_waits]
    refine (List.nil_append _).trans (List.map_congr_left fun paused hmem => ?_)
    have hpaused := hbackoff paused (List.mem_cons_of_mem _ (List.mem_append_right _ hmem))
    rw [request, hpaused]
    rfl
  case steady =>
    intro run hmem
    rw [hbackoff run hmem]
    exact ⟨rfl, rfl⟩
  case failures => exact hfailures.trans (Nat.zero_add _)
  case told =>
    intro outcome houtcome
    rw [(tells_of_loop houtcome).failures]
    exact hfailures.trans (Nat.zero_add _)

end WorkWatch
