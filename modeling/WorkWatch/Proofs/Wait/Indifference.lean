import WorkWatch.Proofs.Wait.Turn

/-! What a wait for a condition does not look at. Two such waits whose polls take the same time and
get the same snapshots go through their turns in step, whatever the reasons of the failures between
them are and whatever their sinks do with the snapshots. -/

namespace WorkWatch

variable {τ σ σ' : Type}

/-- From related surroundings two sources take the same time and give the same snapshot or both
fail; that and their sinks lead to related surroundings again. The failures may differ, and so may
what the sinks answer. -/
structure Source.Alike (related : σ → σ' → Prop) (first : Source τ σ) (second : Source τ σ') :
    Prop where
  takes : ∀ {s s'}, related s s' → (first.acquire s).1.takes = (second.acquire s').1.takes
  snapshot : ∀ {s s'}, related s s' →
    (first.acquire s).1.result.toOption = (second.acquire s').1.result.toOption
  acquired : ∀ {s s'}, related s s' → related (first.acquire s).2 (second.acquire s').2
  handed : ∀ {s s'}, related s s' → ∀ now snapshot met,
    related (first.handOver now snapshot met s) (second.handOver now snapshot met s')

namespace Run

/-- Two runs differ at most in their surroundings, in what their sinks were handed and in their
notes. -/
structure Alike (related : σ → σ' → Prop) (first : Run τ σ) (second : Run τ σ') : Prop where
  surroundings : related first.surroundings second.surroundings
  clock : first.clock = second.clock
  backoff : first.backoff = second.backoff
  polls : first.polls = second.polls
  failures : first.failures = second.failures
  last : first.last = second.last
  polledAt : first.polledAt = second.polledAt
  waits : first.waits = second.waits

variable {related : σ → σ' → Prop} {first : Source τ σ} {second : Source τ σ'}
  {settings : PollSettings τ} {expression : String} {run : Run τ σ} {run' : Run τ σ'}

theorem Alike.receive (hsources : first.Alike related second) (h : run.Alike related run')
    (snapshot : Snapshot) :
    (run.receive first settings expression snapshot).1 =
        (run'.receive second settings expression snapshot).1 ∧
      (run.receive first settings expression snapshot).2.Alike related
        (run'.receive second settings expression snapshot).2 := by
  refine ⟨by rw [receive_verdict, receive_verdict], ?_⟩
  have hsurroundings : related
      (run.receive first settings expression snapshot).2.surroundings
      (run'.receive second settings expression snapshot).2.surroundings := by
    rw [receive_surroundings, receive_surroundings]
    cases snapshot.evaluate expression with
    | error error => exact h.surroundings
    | ok met =>
      rw [h.clock]
      exact hsources.handed h.surroundings _ snapshot met
  rw [receive_eq first, receive_eq second]
  exact ⟨hsurroundings, h.clock, rfl, h.polls, h.failures, rfl, h.polledAt, h.waits⟩

/-- Ends that tell the same, after runs that are alike. -/
def Same (related : σ → σ' → Prop) (first : Ending τ × Run τ σ) (second : Ending τ × Run τ σ') :
    Prop :=
  first.1 = second.1 ∧ first.2.Alike related second.2

theorem Alike.finish (h : run.Alike related run') (goal : Goal) (state : WaitState)
    (error : Option (WaitError τ)) (entry : WaitNote τ) :
    Same related ((run.note entry).finish goal state error)
      ((run'.note entry).finish goal state error) := by
  refine ⟨?_, h.surroundings, h.clock, h.backoff, h.polls, h.failures, h.last, h.polledAt,
    h.waits⟩
  change Ending.outcome ⟨state, goal, run.polls, run.failures, run.last, error⟩ =
    .outcome ⟨state, goal, run'.polls, run'.failures, run'.last, error⟩
  rw [h.polls, h.failures, h.last]

theorem Alike.finishCancelled (h : run.Alike related run') (goal : Goal) :
    Same related (run.finishCancelled goal) (run'.finishCancelled goal) := by
  unfold Run.finishCancelled
  rw [h.clock]
  exact h.finish goal _ _ _

variable [Timescale τ]

theorem Alike.acquire (hsources : first.Alike related second) (h : run.Alike related run') :
    (run.acquired first).toOption = (run'.acquired second).toOption ∧
      (run.acquire first).2.Alike related (run'.acquire second).2 := by
  refine ⟨hsources.snapshot h.surroundings, ?_⟩
  constructor
  case surroundings => exact hsources.acquired h.surroundings
  case clock =>
    change run.clock.spend _ = run'.clock.spend _
    rw [h.clock, hsources.takes h.surroundings]
  case backoff => exact h.backoff
  case polls => exact congrArg (· + 1) h.polls
  case failures => exact h.failures
  case last => exact h.last
  case polledAt =>
    change run.polledAt ++ [run.clock.now] = run'.polledAt ++ [run'.clock.now]
    rw [h.polledAt, h.clock]
  case waits => exact h.waits

theorem Alike.fail (h : run.Alike related run') (failure failure' : Failure) :
    (run.fail settings failure).1 = (run'.fail settings failure').1 ∧
      (run.fail settings failure).2.Alike related (run'.fail settings failure').2 := by
  rw [fail_verdict, fail_verdict, fail_eq settings failure, fail_eq settings failure', h.backoff]
  exact ⟨rfl, h.surroundings, h.clock, rfl, h.polls, congrArg (· + 1) h.failures, h.last,
    h.polledAt, h.waits⟩

theorem Alike.poll (hsources : first.Alike related second) (h : run.Alike related run')
    (settings : PollSettings τ) (expression : String) :
    (run.poll first settings (.condition expression)).1 =
        (run'.poll second settings (.condition expression)).1 ∧
      (run.poll first settings (.condition expression)).2.Alike related
        (run'.poll second settings (.condition expression)).2 := by
  obtain ⟨hsnapshot, hacquire⟩ := h.acquire hsources
  change (run.pollCondition first settings expression).1 =
      (run'.pollCondition second settings expression).1 ∧
    (run.pollCondition first settings expression).2.Alike related
      (run'.pollCondition second settings expression).2
  cases hfirst : run.acquired first with
  | error failure =>
    rw [hfirst] at hsnapshot
    cases hsecond : run'.acquired second with
    | error failure' =>
      rw [pollCondition_error hfirst, pollCondition_error hsecond]
      exact hacquire.fail failure failure'
    | ok snapshot =>
      rw [hsecond] at hsnapshot
      cases hsnapshot
  | ok snapshot =>
    rw [hfirst] at hsnapshot
    cases hsecond : run'.acquired second with
    | error failure =>
      rw [hsecond] at hsnapshot
      cases hsnapshot
    | ok snapshot' =>
      rw [hsecond] at hsnapshot
      cases hsnapshot
      rw [pollCondition_ok hfirst, pollCondition_ok hsecond]
      exact hacquire.receive hsources snapshot

theorem Alike.pause (h : run.Alike related run') (deadline : τ) :
    (run.pause deadline).Alike related (run'.pause deadline) := by
  constructor
  case surroundings => exact h.surroundings
  case clock =>
    change run.clock.sleep (run.request deadline) = run'.clock.sleep (run'.request deadline)
    unfold request
    rw [h.clock, h.backoff]
  case backoff => exact h.backoff
  case polls => exact h.polls
  case failures => exact h.failures
  case last => exact h.last
  case polledAt => exact h.polledAt
  case waits =>
    change run.waits ++ [Clock.asked (run.request deadline)] =
      run'.waits ++ [Clock.asked (run'.request deadline)]
    unfold request
    rw [h.waits, h.clock, h.backoff]

end Run

/-- Two turns go on or end alike. -/
inductive Turn.Alike (related : σ → σ' → Prop) : Turn τ σ → Turn τ σ' → Prop
  | ended {first second} (h : Run.Same related first second) :
      Turn.Alike related (.ended first) (.ended second)
  | ongoing {run run'} (h : run.Alike related run') :
      Turn.Alike related (.ongoing run) (.ongoing run')

namespace Run

variable [Timescale τ] {related : σ → σ' → Prop} {first : Source τ σ} {second : Source τ σ'}
  {settings : PollSettings τ} {goal : Goal} {expression : String} {deadline : τ} {run : Run τ σ}
  {run' : Run τ σ'}

theorem Alike.settle {polled : Verdict × Run τ σ} {polled' : Verdict × Run τ σ'}
    (hverdict : polled.1 = polled'.1) (h : polled.2.Alike related polled'.2) :
    Turn.Alike related (settle settings goal deadline polled)
      (Run.settle settings goal deadline polled') := by
  obtain ⟨verdict, run⟩ := polled
  obtain ⟨verdict', run'⟩ := polled'
  cases hverdict
  cases verdict with
  | raised fault => exact .ended ⟨rfl, h⟩
  | met => exact .ended (h.finish goal _ _ _)
  | notMet =>
    unfold Run.settle
    dsimp only at h ⊢
    rw [h.clock]
    split
    · exact .ended (h.finishCancelled goal)
    · split
      · exact .ended (h.finish goal _ _ _)
      · exact .ongoing h

theorem Alike.wake (h : run.Alike related run') :
    Turn.Alike related (run.wake settings goal deadline) (run'.wake settings goal deadline) := by
  unfold Run.wake
  rw [h.clock]
  split
  · exact .ended (h.finishCancelled goal)
  · split
    · exact .ended (h.finish goal _ _ _)
    · exact .ongoing h

theorem Alike.turn (hsources : first.Alike related second) (h : run.Alike related run') :
    Turn.Alike related (run.turn first settings (.condition expression) deadline)
      (run'.turn second settings (.condition expression) deadline) := by
  obtain ⟨hverdict, hpolled⟩ := h.poll hsources settings expression
  have hsettled : Turn.Alike related
      (Run.settle settings (.condition expression) deadline
        (run.poll first settings (.condition expression)))
      (Run.settle settings (.condition expression) deadline
        (run'.poll second settings (.condition expression))) := hpolled.settle hverdict
  unfold Run.turn
  generalize Run.settle settings (.condition expression) deadline
    (run.poll first settings (.condition expression)) = settled at hsettled
  generalize Run.settle settings (.condition expression) deadline
    (run'.poll second settings (.condition expression)) = settled' at hsettled
  cases hsettled with
  | ended hsame => exact .ended hsame
  | ongoing hpaused => exact (hpaused.pause deadline).wake

/-- Runs that are alike come to the same end. -/
theorem Alike.loop (hsources : first.Alike related second) (settings : PollSettings τ)
    (expression : String) (deadline : τ) (n : Nat) :
    ∀ {run : Run τ σ} {run' : Run τ σ'}, run.Alike related run' →
      Same related (loop first settings (.condition expression) deadline n run)
        (Run.loop second settings (.condition expression) deadline n run') := by
  induction n with
  | zero => exact fun h => ⟨rfl, h⟩
  | succ n ih =>
    intro run run' h
    have hturns : Turn.Alike related (run.turn first settings (.condition expression) deadline)
        (run'.turn second settings (.condition expression) deadline) := h.turn hsources
    rw [loop_succ, loop_succ]
    generalize run.turn first settings (.condition expression) deadline = turn at hturns
    generalize run'.turn second settings (.condition expression) deadline = turn' at hturns
    cases hturns with
    | ended hsame => exact hsame
    | ongoing hnext => exact ih hnext

end Run

/-- Two waits for a condition whose sources are alike poll at the same times, pause for the same
times and end in the same way: with the same state, polls, failures, last snapshot and error. -/
theorem waitFor_alike [Timescale τ] {related : σ → σ' → Prop} (first : Source τ σ)
    (second : Source τ σ') (settings : PollSettings τ) (expression : String) (clock : Clock τ)
    {surroundings : σ} {surroundings' : σ'} (n : Nat) (hsources : first.Alike related second)
    (hsurroundings : related surroundings surroundings') :
    (waitFor first settings (.condition expression) clock surroundings n).2.polledAt =
        (waitFor second settings (.condition expression) clock surroundings' n).2.polledAt ∧
      (waitFor first settings (.condition expression) clock surroundings n).2.waits =
        (waitFor second settings (.condition expression) clock surroundings' n).2.waits ∧
      (waitFor first settings (.condition expression) clock surroundings n).1 =
        (waitFor second settings (.condition expression) clock surroundings' n).1 := by
  have hopened : (Run.opened settings (.condition expression) clock surroundings).Alike related
      (Run.opened settings (.condition expression) clock surroundings') :=
    ⟨hsurroundings, rfl, rfl, rfl, rfl, rfl, rfl, rfl⟩
  obtain ⟨hends, hruns⟩ := hopened.loop hsources settings expression
    (clock.now + settings.timeout) n
  rw [Run.waitFor_eq, Run.waitFor_eq]
  exact ⟨hruns.polledAt, hruns.waits, hends⟩

/-- Two failures and then a snapshot. One wait has no sink and learns that the work is missing; in
the other the server is down, and the sink fails. -/
theorem waitFor_alike_failing :
    ∃ (first second : Source Float Nat) (settings : PollSettings Float) (clock : Clock Float),
      first.Alike (· = ·) second ∧ first.sink.isNone = true ∧ second.sink.isSome = true ∧
      (waitFor first settings (.condition "Applied") clock 0 5).2.polls = 3 ∧
      (waitFor first settings (.condition "Applied") clock 0 5).2.polledAt =
        (waitFor second settings (.condition "Applied") clock 0 5).2.polledAt ∧
      (waitFor first settings (.condition "Applied") clock 0 5).2.waits =
        (waitFor second settings (.condition "Applied") clock 0 5).2.waits ∧
      (waitFor first settings (.condition "Applied") clock 0 5).1 =
        (waitFor second settings (.condition "Applied") clock 0 5).1 := by
  let snapshot : Snapshot :=
    ⟨"", "web", "cluster1", 1, "", "", [], [⟨"Applied", .yes, "", "", ""⟩], [], ""⟩
  let acquire (failure : Failure) (asked : Nat) : Acquisition Float × Nat :=
    (⟨0.5, if asked < 2 then .error failure else .ok snapshot⟩, asked + 1)
  let first : Source Float Nat := ⟨acquire (.workMissing "web" "cluster1"), none⟩
  let second : Source Float Nat := ⟨acquire (.api "server down" (some 503)),
    some fun _ _ _ asked => (some (.other "OSError" "disk full"), asked)⟩
  have halike : first.Alike (· = ·) second := by
    constructor
    case takes => exact fun _ => rfl
    case snapshot =>
      rintro asked _ rfl
      by_cases h : asked < 2 <;> simp [first, second, acquire, h, Except.toOption]
    case acquired =>
      rintro asked _ rfl
      rfl
    case handed =>
      rintro asked _ rfl now snapshot met
      rfl
  exact ⟨first, second, ⟨1, 300, 8⟩, ⟨0, [], .none⟩, halike, rfl, rfl, by decide +kernel,
    waitFor_alike first second ⟨1, 300, 8⟩ "Applied" ⟨0, [], .none⟩ 5 halike rfl⟩

end WorkWatch
