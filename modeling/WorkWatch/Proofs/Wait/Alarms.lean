import WorkWatch.Proofs.Wait.Turn

/-! The alarms of a clock go off in their order and only while time passes. A cancellation keeps the
cause of the first call that was ever made for it, by hand or by an alarm. -/

namespace WorkWatch

namespace Cancellation

/-- The cancellation after some calls for it, in the order of the calls. -/
def ofCalls (causes : List String) : Cancellation :=
  causes.foldl (fun token cause => token.cancel cause) none

theorem cancel_of_isCancelled {token : Cancellation} (h : token.isCancelled = true)
    (cause : String) : token.cancel cause = token := by
  unfold cancel
  rw [if_pos h]

theorem foldl_cancel_of_isCancelled {token : Cancellation} (h : token.isCancelled = true)
    (causes : List String) :
    causes.foldl (fun token cause => token.cancel cause) token = token := by
  induction causes with
  | nil => rfl
  | cons cause causes ih => rw [List.foldl_cons, cancel_of_isCancelled h, ih]

/-- The first call counts. -/
theorem ofCalls_cause (causes : List String) : (ofCalls causes).cause = causes.head? := by
  cases causes with
  | nil => rfl
  | cons cause causes =>
    unfold ofCalls
    rw [List.foldl_cons, foldl_cancel_of_isCancelled rfl]
    rfl

theorem isCancelled_iff {token : Cancellation} :
    token.isCancelled = true ↔ ∃ cause, token.cause = some cause :=
  Option.isSome_iff_exists

theorem shownCause_eq {token : Cancellation} {cause : String} (h : token.cause = some cause) :
    token.shownCause = if cause = "" then "cancelled" else cause := by
  unfold shownCause
  rw [h]
  simp [String.isEmpty_iff]

end Cancellation

namespace Clock

variable {τ : Type}

/-- A later reading of a clock: some of its alarms have gone off, and each has cancelled. -/
structure Follows (before after : Clock τ) (fired : List (Alarm τ)) : Prop where
  alarms : before.alarms = fired ++ after.alarms
  token : after.token =
    (fired.map (·.cause)).foldl (fun token cause => token.cancel cause) before.token

theorem Follows.refl (clock : Clock τ) : clock.Follows clock [] := ⟨rfl, rfl⟩

theorem Follows.trans {first second third : Clock τ} {fired later : List (Alarm τ)}
    (h : first.Follows second fired) (h' : second.Follows third later) :
    first.Follows third (fired ++ later) := by
  constructor
  · rw [h.alarms, h'.alarms, List.append_assoc]
  · rw [h'.token, h.token, List.map_append, List.foldl_append]

theorem Follows.calls {before after : Clock τ} {fired : List (Alarm τ)}
    (h : before.Follows after fired) {calls : List String}
    (hcalls : before.token = .ofCalls calls) :
    after.token = .ofCalls (calls ++ fired.map (·.cause)) := by
  rw [h.token, hcalls]
  exact List.foldl_append.symm

variable [Timescale τ]

theorem passTo_follows (watchful : Bool) (target : τ) (alarms : List (Alarm τ)) :
    ∀ (now : τ) (token : Cancellation),
      ∃ fired, (⟨now, alarms, token⟩ : Clock τ).Follows
        (passTo watchful target now token alarms) fired := by
  induction alarms with
  | nil => exact fun _ _ => ⟨[], rfl, rfl⟩
  | cons alarm rest ih =>
    intro now token
    rw [passTo]
    split
    · dsimp only
      split
      · exact ⟨[alarm], rfl, rfl⟩
      · obtain ⟨fired, halarms, htoken⟩ := ih (Timescale.later now alarm.due)
          (token.cancel alarm.cause)
        exact ⟨alarm :: fired, congrArg (alarm :: ·) halarms, htoken⟩
    · exact ⟨[], rfl, rfl⟩

theorem spend_follows (duration : τ) (clock : Clock τ) :
    ∃ fired, clock.Follows (clock.spend duration) fired := by
  unfold spend
  split
  · exact ⟨[], .refl clock⟩
  · exact passTo_follows _ _ _ _ _

theorem sleep_follows (duration : τ) (clock : Clock τ) :
    ∃ fired, clock.Follows (clock.sleep duration) fired := by
  unfold sleep
  split
  · exact ⟨[], .refl clock⟩
  · exact passTo_follows _ _ _ _ _

end Clock

namespace Run

variable {τ σ : Type} [Timescale τ] {source : Source τ σ} {settings : PollSettings τ} {goal : Goal}
  {deadline : τ}

theorem turn_follows (run : Run τ σ) :
    ∃ fired, run.clock.Follows (run.turn source settings goal deadline).run.clock fired := by
  obtain ⟨fired, hpolled⟩ :=
    run.clock.spend_follows (source.acquire run.surroundings).1.takes
  rw [← poll_clock source settings goal run] at hpolled
  unfold turn
  split
  · rename_i result hresult
    rw [← settle_frame (·.clock) (fun _ _ _ => rfl) hresult] at hpolled
    exact ⟨fired, hpolled⟩
  · rename_i paused hpaused
    rw [← settle_frame (·.clock) (fun _ _ _ => rfl) hpaused] at hpolled
    obtain ⟨late, hslept⟩ := paused.clock.sleep_follows (paused.request deadline)
    rw [wake_frame (·.clock) _ fun _ _ _ => rfl]
    exact ⟨fired ++ late, hpolled.trans hslept⟩

/-- Whatever a wait comes to, its clock is a later reading of the one it began with. -/
theorem loop_follows (n : Nat) (run : Run τ σ) :
    ∃ fired, run.clock.Follows (loop source settings goal deadline n run).2.clock fired := by
  refine loop_preserves (P := fun later => ∃ fired, run.clock.Follows later.clock fired) ?_ n
    ⟨[], .refl run.clock⟩
  intro visited hvisited
  obtain ⟨fired, hfired⟩ := hvisited
  obtain ⟨late, hlate⟩ := visited.turn_follows
  exact ⟨fired ++ late, hfired.trans hlate⟩

end Run

end WorkWatch
