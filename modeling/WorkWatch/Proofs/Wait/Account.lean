import WorkWatch.Proofs.Wait.Ending

/-! The account that a condition wait keeps: how many polls and failures there were, the last
snapshot and what the sink was handed. It is the account of what the polls got, in their order. -/

namespace WorkWatch

/-- What a wait counts and keeps. -/
structure Account where
  polls : Nat
  failures : Nat
  last : Option Snapshot
  delivered : List (Snapshot × Bool)

namespace Account

variable {τ σ : Type}

def add (source : Source τ σ) (expression : String) (account : Account) :
    Except Failure Snapshot → Account
  | .error _ => { account with polls := account.polls + 1, failures := account.failures + 1 }
  | .ok snapshot =>
    { account with
      polls := account.polls + 1
      last := some snapshot
      delivered := account.delivered ++ Run.handedFor source expression snapshot }

/-- The snapshots among what the polls get. -/
def snapshots (got : List (Except Failure Snapshot)) : List Snapshot :=
  got.filterMap Except.toOption

theorem snapshots_error (failure : Failure) (got : List (Except Failure Snapshot)) :
    snapshots (.error failure :: got) = snapshots got := rfl

theorem snapshots_ok (snapshot : Snapshot) (got : List (Except Failure Snapshot)) :
    snapshots (.ok snapshot :: got) = snapshot :: snapshots got := rfl

theorem mem_snapshots_iff {snapshot : Snapshot} {got : List (Except Failure Snapshot)} :
    snapshot ∈ snapshots got ↔ .ok snapshot ∈ got := by
  unfold snapshots
  rw [List.mem_filterMap]
  constructor
  · rintro ⟨failure | snapshot, hmem, h⟩
    · cases h
    · cases h
      exact hmem
  · exact fun hmem => ⟨_, hmem, rfl⟩

/-- The account of several polls, field by field. -/
theorem foldl_add (source : Source τ σ) (expression : String)
    (got : List (Except Failure Snapshot)) : ∀ account : Account,
      got.foldl (add source expression) account =
        { polls := account.polls + got.length
          failures := account.failures + got.countP (!·.isOk)
          last := (snapshots got).getLast?.or account.last
          delivered :=
            account.delivered ++ (snapshots got).flatMap (Run.handedFor source expression) } := by
  induction got with
  | nil =>
    intro account
    rw [List.foldl_nil, snapshots, List.filterMap_nil, List.flatMap_nil, List.append_nil]
    rfl
  | cons result got ih =>
    intro account
    rw [List.foldl_cons, ih, List.length_cons]
    cases result with
    | error failure =>
      rw [snapshots_error, List.countP_cons_of_pos rfl]
      simp only [add]
      congr 1 <;> omega
    | ok snapshot =>
      rw [snapshots_ok, List.countP_cons_of_neg Bool.false_ne_true, List.flatMap_cons,
        ← List.append_assoc, List.getLast?_cons]
      simp only [add]
      congr 1
      · omega
      · cases (snapshots got).getLast? <;> rfl

/-- A sink is handed every snapshot that can be evaluated, with its evaluation. -/
theorem handed_map {source : Source τ σ} (hsink : source.sink.isSome = true) {expression : String}
    {snapshots : List Snapshot}
    (hall : ∀ snapshot ∈ snapshots, ∃ met, snapshot.evaluate expression = .ok met) :
    (snapshots.flatMap (Run.handedFor source expression)).map
        (fun delivery => (delivery.1, Except.ok delivery.2)) =
      snapshots.map fun snapshot => (snapshot, snapshot.evaluate expression) := by
  induction snapshots with
  | nil => rfl
  | cons snapshot rest ih =>
    obtain ⟨met, hmet⟩ := hall snapshot List.mem_cons_self
    have hhanded : Run.handedFor source expression snapshot = [(snapshot, met)] := by
      unfold Run.handedFor Run.handed
      rw [hmet]
      exact if_pos hsink
    rw [List.flatMap_cons, List.map_append, List.map_cons, hhanded, hmet,
      ih fun snapshot hmem => hall snapshot (List.mem_cons_of_mem _ hmem)]
    rfl

theorem handedFor_none {source : Source τ σ} (hsink : source.sink = none) (expression : String)
    (snapshots : List Snapshot) : snapshots.flatMap (Run.handedFor source expression) = [] := by
  rw [List.flatMap_eq_nil_iff]
  intro snapshot _
  unfold Run.handedFor Run.handed
  rw [hsink]
  split <;> rfl

end Account

namespace Run

variable {τ σ : Type} [Timescale τ] {source : Source τ σ} {settings : PollSettings τ}
  {deadline : τ}

def account (run : Run τ σ) : Account := ⟨run.polls, run.failures, run.last, run.delivered⟩

theorem pollCondition_account (source : Source τ σ) (settings : PollSettings τ)
    (expression : String) (run : Run τ σ) :
    (run.pollCondition source settings expression).2.account =
      run.account.add source expression (run.acquired source) := by
  cases h : run.acquired source with
  | error failure =>
    rw [pollCondition_error h, fail_eq]
    rfl
  | ok snapshot =>
    rw [pollCondition_ok h, receive_eq]
    rfl

/-- What the polls of a wait get, in their order. -/
def gets (source : Source τ σ) (settings : PollSettings τ) (goal : Goal) (deadline : τ)
    (n : Nat) (run : Run τ σ) : List (Except Failure Snapshot) :=
  (pollStates source settings goal deadline n run).map (·.acquired source)

/-- The account of a condition wait is that of what its polls get. -/
theorem loop_account (source : Source τ σ) (settings : PollSettings τ) (expression : String)
    (deadline : τ) (n : Nat) (run : Run τ σ) :
    (loop source settings (.condition expression) deadline n run).2.account =
      (gets source settings (.condition expression) deadline n run).foldl
        (Account.add source expression) run.account := by
  rw [gets, List.foldl_map]
  refine loop_foldl account (fun account run => account.add source expression (run.acquired source))
    (fun run => ?_) n run
  rw [← pollCondition_account source settings expression run]
  exact turn_frame account run fun _ _ _ _ _ => rfl

/-- The snapshots that a condition wait gets are not satisfied up to the last poll, and that one
decides whether the condition is met. -/
theorem gets_of_outcome {expression : String} {n : Nat} {run : Run τ σ} {outcome : WaitOutcome τ}
    (h : (loop source settings (.condition expression) deadline n run).1 = .outcome outcome) :
    ∃ before result,
      gets source settings (.condition expression) deadline n run = before ++ [result] ∧
      (∀ snapshot, .ok snapshot ∈ before → snapshot.evaluate expression = .ok false) ∧
      (∀ snapshot, result = .ok snapshot →
        snapshot.evaluate expression = .ok (decide (outcome.state = .conditionMet))) ∧
      (outcome.state = .conditionMet → ∃ snapshot, result = .ok snapshot) := by
  obtain ⟨before, visited, hstates, hbefore, hturn⟩ := loop_ended (by rw [h]; exact nofun)
  refine ⟨before.map (·.acquired source), visited.acquired source, ?_, ?_, ?_⟩
  · rw [gets, hstates, List.map_append]
    rfl
  · intro snapshot hmem
    obtain ⟨earlier, hearlier, hacquired⟩ := List.mem_map.mp hmem
    obtain ⟨next, hnext⟩ := hbefore earlier hearlier
    cases goes_of_turn hnext with
    | on hpoll => exact evaluate_of_notMet (congrArg Prod.fst hpoll) hacquired
  -- Unless the goal was reached the last poll left the wait going on, and its end came after.
  · have hopen {polled : Run τ σ}
        (hpoll : visited.poll source settings (.condition expression) = (.notMet, polled))
        (hstate : outcome.state ≠ .conditionMet) :
        (∀ snapshot, visited.acquired source = .ok snapshot →
          snapshot.evaluate expression = .ok (decide (outcome.state = .conditionMet))) ∧
        (outcome.state = .conditionMet → ∃ snapshot, visited.acquired source = .ok snapshot) := by
      refine ⟨fun snapshot hacquired => ?_, fun hmet => absurd hmet hstate⟩
      rw [decide_eq_false hstate]
      exact evaluate_of_notMet (congrArg Prod.fst hpoll) hacquired
    generalize loop source settings (.condition expression) deadline n run = result at h hturn
    cases goes_of_turn hturn with
    | raised hpoll => cases h
    | met hpoll =>
      cases h
      obtain ⟨snapshot, hacquired, hmet⟩ :=
        pollCondition_met_iff.mp (congrArg Prod.fst hpoll)
      rw [hacquired]
      exact ⟨fun _ h => by cases h; exact hmet, fun _ => ⟨snapshot, rfl⟩⟩
    | cancelled hpoll => cases h; exact hopen hpoll nofun
    | expired hpoll => cases h; exact hopen hpoll nofun
    | cancelledInPause hpoll => cases h; exact hopen hpoll nofun
    | expiredInPause hpoll => cases h; exact hopen hpoll nofun

end Run

/-- The outcome of a condition wait and the deliveries to its sink, as an account of what the polls
of the wait got. -/
structure AccountsFor {τ σ : Type} (source : Source τ σ) (expression : String)
    (got : List (Except Failure Snapshot)) (outcome : WaitOutcome τ)
    (delivered : List (Snapshot × Bool)) : Prop where
  polls : outcome.polls = got.length
  failures : outcome.failures = got.countP (!·.isOk)
  last : outcome.last = (Account.snapshots got).getLast?
  handed : source.sink.isSome = true →
    delivered.map (fun delivery => (delivery.1, Except.ok delivery.2)) =
      (Account.snapshots got).map fun snapshot => (snapshot, snapshot.evaluate expression)
  noSink : source.sink = none → delivered = []
  met : outcome.state = .conditionMet ↔
    ∃ snapshot, got.getLast? = some (.ok snapshot) ∧ snapshot.evaluate expression = .ok true
  earlier : ∀ snapshot, .ok snapshot ∈ got.dropLast → snapshot.evaluate expression = .ok false
  noError : outcome.error = none ↔ outcome.state = .conditionMet
  timedOut : outcome.error.map (·.kind) = some "WaitTimeoutError" ↔ outcome.state = .expired
  cancelled : outcome.error.map (·.kind) = some "WaitCancelledError" ↔ outcome.state = .cancelled

open Run

/-- A condition wait that ends with an outcome has counted every poll and every failure, has handed
every snapshot to the sink with its evaluation, and is met exactly if the last poll got a snapshot
that satisfies the condition; no earlier one does. -/
theorem waitFor_accountsFor {τ σ : Type} [Timescale τ] (source : Source τ σ)
    (settings : PollSettings τ) (expression : String) (clock : Clock τ) (surroundings : σ)
    (n : Nat) {outcome : WaitOutcome τ}
    (h : (waitFor source settings (.condition expression) clock surroundings n).1 =
      .outcome outcome) :
    AccountsFor source expression
      (gets source settings (.condition expression) (clock.now + settings.timeout) n
        (opened settings (.condition expression) clock surroundings))
      outcome
      (waitFor source settings (.condition expression) clock surroundings n).2.delivered := by
  rw [waitFor_eq] at h ⊢
  generalize clock.now + settings.timeout = deadline at h ⊢
  -- All is read from what the polls got: those before the last did not satisfy the condition.
  obtain ⟨before, result, hgets, hbefore, hresult, hmet⟩ := gets_of_outcome h
  have htells := tells_of_loop h
  have haccount := loop_account source settings expression deadline n
    (opened settings (.condition expression) clock surroundings)
  rw [Account.foldl_add, hgets] at haccount
  rw [hgets]
  generalize loop source settings (.condition expression) deadline n
    (opened settings (.condition expression) clock surroundings) = ended at h htells haccount ⊢
  have hdelivered : ended.2.delivered =
      (Account.snapshots (before ++ [result])).flatMap (handedFor source expression) :=
    (congrArg Account.delivered haccount).trans (List.nil_append _)
  constructor
  case polls =>
    rw [htells.polls]
    exact (congrArg Account.polls haccount).trans (Nat.zero_add _)
  case failures =>
    rw [htells.failures]
    exact (congrArg Account.failures haccount).trans (Nat.zero_add _)
  case last =>
    rw [htells.last]
    exact (congrArg Account.last haccount).trans Option.or_none
  case handed =>
    intro hsink
    rw [hdelivered]
    refine Account.handed_map hsink fun snapshot hmem => ?_
    rcases List.mem_append.mp (Account.mem_snapshots_iff.mp hmem) with hmem | hmem
    · exact ⟨false, hbefore snapshot hmem⟩
    · exact ⟨_, hresult snapshot (List.mem_singleton.mp hmem).symm⟩
  case noSink =>
    intro hsink
    rw [hdelivered, Account.handedFor_none hsink]
  case met =>
    rw [List.getLast?_concat]
    constructor
    · intro hstate
      obtain ⟨snapshot, hok⟩ := hmet hstate
      refine ⟨snapshot, congrArg some hok, ?_⟩
      rw [hresult snapshot hok, decide_eq_true hstate]
    · rintro ⟨snapshot, hok, htrue⟩
      rw [hresult snapshot (Option.some.inj hok)] at htrue
      exact of_decide_eq_true (Except.ok.inj htrue)
  case earlier =>
    rw [List.dropLast_concat]
    exact hbefore
  case noError => exact htells.closes.kinds.1
  case timedOut => exact htells.closes.kinds.2.1
  case cancelled => exact htells.closes.kinds.2.2

/-- A failure and then a snapshot that satisfies the condition. -/
theorem waitFor_accountsFor_met :
    ∃ (source : Source Float Nat) (settings : PollSettings Float) (clock : Clock Float)
      (outcome : WaitOutcome Float),
      (waitFor source settings (.condition "Applied") clock 0 5).1 = .outcome outcome ∧
      outcome.state = .conditionMet ∧
      AccountsFor source "Applied"
        (gets source settings (.condition "Applied") (clock.now + settings.timeout) 5
          (opened settings (.condition "Applied") clock 0))
        outcome (waitFor source settings (.condition "Applied") clock 0 5).2.delivered := by
  let snapshot : Snapshot :=
    ⟨"", "web", "cluster1", 1, "", "", [], [⟨"Applied", .yes, "", "", ""⟩], [], ""⟩
  let source : Source Float Nat :=
    ⟨fun asked => (⟨0.5, if asked = 0 then .error (.other "RuntimeError" "") else .ok snapshot⟩,
      asked + 1), some fun _ _ _ asked => (some (.other "OSError" ""), asked)⟩
  let settings : PollSettings Float := ⟨1, 300, 8⟩
  let clock : Clock Float := ⟨0, [], .none⟩
  have hstate : (match (waitFor source settings (.condition "Applied") clock 0 5).1 with
      | .outcome outcome => outcome.state
      | _ => .idle) = .conditionMet := by decide +kernel
  cases hended : (waitFor source settings (.condition "Applied") clock 0 5).1 with
  | outcome outcome =>
    rw [hended] at hstate
    exact ⟨source, settings, clock, outcome, hended, hstate,
      waitFor_accountsFor source settings "Applied" clock 0 5 hended⟩
  | raised fault =>
    rw [hended] at hstate
    cases hstate
  | unfinished =>
    rw [hended] at hstate
    cases hstate

end WorkWatch
