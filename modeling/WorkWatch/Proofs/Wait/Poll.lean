import WorkWatch.Wait.Poll

/-! What one poll changes in a run, field by field. Each part of a poll has one lemma that names the
fields it touches; the rest of the run is left as it was. -/

namespace WorkWatch

/-- The surroundings after a snapshot has been handed to the sink, if there is one. -/
def Source.handOver {τ σ : Type} (source : Source τ σ) (now : τ) (snapshot : Snapshot) (met : Bool)
    (surroundings : σ) : σ :=
  match source.sink with
  | none => surroundings
  | some sink => (sink now snapshot met surroundings).2

namespace Run

variable {τ σ : Type}

theorem noteIf_eq (condition : Bool) (entry : WaitNote τ) (run : Run τ σ) :
    run.noteIf condition entry = { run with notes := (run.noteIf condition entry).notes } := by
  unfold noteIf
  cases condition <;> rfl

theorem checkVersion_eq (snapshot : Snapshot) (run : Run τ σ) :
    run.checkVersion snapshot = { run with notes := (run.checkVersion snapshot).notes } := by
  unfold checkVersion
  split
  · exact noteIf_eq _ _ run
  · rfl

/-- What a sink is handed: one delivery, and none when there is no sink. -/
def handed (source : Source τ σ) (snapshot : Snapshot) (met : Bool) : List (Snapshot × Bool) :=
  if source.sink.isSome then [(snapshot, met)] else []

theorem deliver_eq (source : Source τ σ) (snapshot : Snapshot) (met : Bool) (run : Run τ σ) :
    run.deliver source snapshot met =
      { run with
        surroundings := (run.deliver source snapshot met).surroundings
        delivered := run.delivered ++ handed source snapshot met
        notes := (run.deliver source snapshot met).notes } := by
  unfold deliver handed
  cases source.sink with
  | none => simp
  | some sink =>
    dsimp only
    generalize sink run.clock.now snapshot met run.surroundings = reply
    obtain ⟨_ | failure, surroundings⟩ := reply <;> rfl

theorem deliver_surroundings (source : Source τ σ) (snapshot : Snapshot) (met : Bool)
    (run : Run τ σ) :
    (run.deliver source snapshot met).surroundings =
      source.handOver run.clock.now snapshot met run.surroundings := by
  unfold deliver Source.handOver
  cases source.sink with
  | none => rfl
  | some sink =>
    dsimp only
    generalize sink run.clock.now snapshot met run.surroundings = reply
    obtain ⟨_ | failure, surroundings⟩ := reply <;> rfl

/-- What the sink is handed about a snapshot: nothing when its evaluation fails. -/
def handedFor (source : Source τ σ) (expression : String) (snapshot : Snapshot) :
    List (Snapshot × Bool) :=
  match snapshot.evaluate expression with
  | .ok met => handed source snapshot met
  | .error _ => []

/-- A snapshot resets the backoff, is the last one from now on, and is handed to the sink. -/
theorem receive_eq (source : Source τ σ) (settings : PollSettings τ) (expression : String)
    (snapshot : Snapshot) (run : Run τ σ) :
    (run.receive source settings expression snapshot).2 =
      { run with
        surroundings := (run.receive source settings expression snapshot).2.surroundings
        backoff := Backoff.start settings
        last := some snapshot
        delivered := run.delivered ++ handedFor source expression snapshot
        notes := (run.receive source settings expression snapshot).2.notes } := by
  unfold receive handedFor
  dsimp only
  rw [checkVersion_eq]
  cases snapshot.evaluate expression with
  | error error => simp [Backoff.success]
  | ok met =>
    dsimp only
    rw [deliver_eq]
    rfl

theorem receive_surroundings (source : Source τ σ) (settings : PollSettings τ)
    (expression : String) (snapshot : Snapshot) (run : Run τ σ) :
    (run.receive source settings expression snapshot).2.surroundings =
      match snapshot.evaluate expression with
      | .ok met => source.handOver run.clock.now snapshot met run.surroundings
      | .error _ => run.surroundings := by
  unfold receive
  dsimp only
  rw [checkVersion_eq]
  cases snapshot.evaluate expression with
  | error error => rfl
  | ok met => exact deliver_surroundings source snapshot met _

theorem receive_verdict (source : Source τ σ) (settings : PollSettings τ) (expression : String)
    (snapshot : Snapshot) (run : Run τ σ) :
    (run.receive source settings expression snapshot).1 =
      match snapshot.evaluate expression with
      | .error error => .raised (.comparison error)
      | .ok true => .met
      | .ok false => .notMet := by
  unfold receive
  rcases snapshot.evaluate expression with error | _ | _ <;> rfl

variable [Timescale τ]

/-- A failure is counted and changes the backoff, also when the backoff cannot be computed. -/
theorem fail_eq (settings : PollSettings τ) (failure : Failure) (run : Run τ σ) :
    (run.fail settings failure).2 =
      { run with
        backoff := run.backoff.failure settings
        failures := run.failures + 1
        notes := (run.fail settings failure).2.notes } := by
  unfold fail
  cases run.backoff.failureError settings with
  | some error => rfl
  | none =>
    dsimp only
    rw [noteIf_eq]
    rfl

theorem fail_verdict (settings : PollSettings τ) (failure : Failure) (run : Run τ σ) :
    (run.fail settings failure).1 =
      match run.backoff.failureError settings with
      | some error => .raised (.backoff error)
      | none => .notMet := by
  unfold fail
  cases run.backoff.failureError settings <;> rfl

/-- What the poll that begins in a state gets. -/
def acquired (source : Source τ σ) (run : Run τ σ) : Except Failure Snapshot :=
  (run.acquire source).1

theorem pollCondition_error {source : Source τ σ} {run : Run τ σ} {failure : Failure}
    (h : run.acquired source = .error failure) (settings : PollSettings τ) (expression : String) :
    run.pollCondition source settings expression =
      (run.acquire source).2.fail settings failure := by
  unfold acquired at h
  unfold pollCondition
  rw [← Prod.eta (run.acquire source), h]

theorem pollCondition_ok {source : Source τ σ} {run : Run τ σ} {snapshot : Snapshot}
    (h : run.acquired source = .ok snapshot) (settings : PollSettings τ) (expression : String) :
    run.pollCondition source settings expression =
      (run.acquire source).2.receive source settings expression snapshot := by
  unfold acquired at h
  unfold pollCondition
  rw [← Prod.eta (run.acquire source), h]

theorem pollDeletion_error {source : Source τ σ} {run : Run τ σ} {failure : Failure}
    (h : run.acquired source = .error failure) :
    run.pollDeletion source =
      if failure.reason.isGone then (.met, (run.acquire source).2.note (.gone failure.message))
      else
        (.notMet, { (run.acquire source).2 with failures := run.failures + 1 }.note
          (.deletionPollFailed failure.message)) := by
  unfold acquired at h
  unfold pollDeletion
  rw [← Prod.eta (run.acquire source), h]
  rfl

theorem pollDeletion_ok {source : Source τ σ} {run : Run τ σ} {snapshot : Snapshot}
    (h : run.acquired source = .ok snapshot) :
    run.pollDeletion source =
      (.notMet, { (run.acquire source).2 with last := some snapshot }) := by
  unfold acquired at h
  unfold pollDeletion
  rw [← Prod.eta (run.acquire source), h]

/-- Only the acquisition of a poll moves the clock and counts the poll: what does not look at the
rest of a run is as it was after the acquisition. -/
theorem poll_frame {β : Type} (source : Source τ σ) (settings : PollSettings τ) (goal : Goal)
    (run : Run τ σ) (f : Run τ σ → β)
    (hf : ∀ (run : Run τ σ) surroundings backoff failures last delivered notes,
      f { run with surroundings, backoff, failures, last, delivered, notes } = f run) :
    f (run.poll source settings goal).2 = f (run.acquire source).2 := by
  cases h : run.acquired source with
  | error failure =>
    cases goal with
    | condition expression =>
      change f (run.pollCondition source settings expression).2 = _
      rw [pollCondition_error h, fail_eq]
      exact hf (run.acquire source).2 _ _ _ _ _ _
    | deletion =>
      change f (run.pollDeletion source).2 = _
      rw [pollDeletion_error h]
      split
      · exact hf (run.acquire source).2 _ _ _ _ _ _
      · exact hf (run.acquire source).2 _ _ _ _ _ _
  | ok snapshot =>
    cases goal with
    | condition expression =>
      change f (run.pollCondition source settings expression).2 = _
      rw [pollCondition_ok h, receive_eq]
      exact hf (run.acquire source).2 _ _ _ _ _ _
    | deletion =>
      change f (run.pollDeletion source).2 = _
      rw [pollDeletion_ok h]
      exact hf (run.acquire source).2 _ _ _ _ _ _

/-- What no sink changes in the surroundings is as the acquisition of a poll leaves it. -/
theorem poll_surroundings {β : Type} (source : Source τ σ) (settings : PollSettings τ)
    (goal : Goal) (run : Run τ σ) (f : σ → β)
    (hf : ∀ now snapshot met s, f (source.handOver now snapshot met s) = f s) :
    f (run.poll source settings goal).2.surroundings = f (source.acquire run.surroundings).2 := by
  cases h : run.acquired source with
  | error failure =>
    cases goal with
    | condition expression =>
      change f (run.pollCondition source settings expression).2.surroundings = _
      rw [pollCondition_error h, fail_eq]
      rfl
    | deletion =>
      change f (run.pollDeletion source).2.surroundings = _
      rw [pollDeletion_error h]
      split <;> rfl
  | ok snapshot =>
    cases goal with
    | condition expression =>
      change f (run.pollCondition source settings expression).2.surroundings = _
      rw [pollCondition_ok h, receive_surroundings]
      split
      · exact hf _ _ _ _
      · rfl
    | deletion =>
      change f (run.pollDeletion source).2.surroundings = _
      rw [pollDeletion_ok h]
      rfl

theorem poll_clock (source : Source τ σ) (settings : PollSettings τ) (goal : Goal)
    (run : Run τ σ) :
    (run.poll source settings goal).2.clock =
      run.clock.spend (source.acquire run.surroundings).1.takes :=
  poll_frame source settings goal run (·.clock) fun _ _ _ _ _ _ _ => rfl

theorem poll_polledAt (source : Source τ σ) (settings : PollSettings τ) (goal : Goal)
    (run : Run τ σ) :
    (run.poll source settings goal).2.polledAt = run.polledAt ++ [run.clock.now] :=
  poll_frame source settings goal run (·.polledAt) fun _ _ _ _ _ _ _ => rfl

theorem poll_waits (source : Source τ σ) (settings : PollSettings τ) (goal : Goal)
    (run : Run τ σ) : (run.poll source settings goal).2.waits = run.waits :=
  poll_frame source settings goal run (·.waits) fun _ _ _ _ _ _ _ => rfl

/-- In a condition wait a failure is added to the backoff and a snapshot resets it. -/
theorem pollCondition_backoff (source : Source τ σ) (settings : PollSettings τ)
    (expression : String) (run : Run τ σ) :
    (run.pollCondition source settings expression).2.backoff =
      match run.acquired source with
      | .error _ => run.backoff.failure settings
      | .ok _ => Backoff.start settings := by
  cases h : run.acquired source with
  | error failure =>
    rw [pollCondition_error h, fail_eq]
    rfl
  | ok snapshot => rw [pollCondition_ok h, receive_eq]

/-- A deletion wait never backs off. -/
theorem pollDeletion_backoff (source : Source τ σ) (run : Run τ σ) :
    (run.pollDeletion source).2.backoff = run.backoff := by
  cases h : run.acquired source with
  | error failure =>
    rw [pollDeletion_error h]
    split <;> rfl
  | ok snapshot =>
    rw [pollDeletion_ok h]
    rfl

/-- A poll of a condition wait fails where there is no interval after a failure, and where the
snapshot cannot be evaluated. -/
theorem pollCondition_verdict (source : Source τ σ) (settings : PollSettings τ)
    (expression : String) (run : Run τ σ) :
    (run.pollCondition source settings expression).1 =
      match run.acquired source with
      | .error _ =>
        match run.backoff.failureError settings with
        | some error => .raised (.backoff error)
        | none => .notMet
      | .ok snapshot =>
        match snapshot.evaluate expression with
        | .error error => .raised (.comparison error)
        | .ok true => .met
        | .ok false => .notMet := by
  cases h : run.acquired source with
  | error failure =>
    rw [pollCondition_error h, fail_verdict]
    rfl
  | ok snapshot => rw [pollCondition_ok h, receive_verdict]

theorem pollCondition_met_iff {source : Source τ σ} {settings : PollSettings τ}
    {expression : String} {run : Run τ σ} :
    (run.pollCondition source settings expression).1 = .met ↔
      ∃ snapshot, run.acquired source = .ok snapshot ∧ snapshot.evaluate expression = .ok true := by
  rw [pollCondition_verdict]
  cases run.acquired source with
  | error failure => cases run.backoff.failureError settings <;> simp
  | ok snapshot => rcases h : snapshot.evaluate expression with error | _ | _ <;> simp [h]

/-- A snapshot that leaves a wait going on does not satisfy its condition. -/
theorem evaluate_of_notMet {source : Source τ σ} {settings : PollSettings τ}
    {expression : String} {run : Run τ σ} {snapshot : Snapshot}
    (hpoll : (run.pollCondition source settings expression).1 = .notMet)
    (hsnapshot : run.acquired source = .ok snapshot) :
    snapshot.evaluate expression = .ok false := by
  rw [pollCondition_verdict, hsnapshot] at hpoll
  rcases h : snapshot.evaluate expression with error | _ | _
  · simp [h] at hpoll
  · rfl
  · simp [h] at hpoll

end Run

end WorkWatch
