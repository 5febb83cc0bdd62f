import Mathlib.Data.List.Chain
import WorkWatch.Proofs.Wait.Account

/-! Versions that go backwards. A condition wait compares the version of every snapshot with that of
the one it got before, however many polls have failed in between; so it warns once for each two
neighbours among its snapshots of which the second has the lower version. -/

namespace WorkWatch

/-- The note is a warning that a version went backwards. -/
def WaitNote.isRegression {τ : Type} : WaitNote τ → Bool
  | .versionWentBack .. => true
  | _ => false

/-- The warning about a snapshot whose version is below that of the one before it. -/
def Snapshot.regression? (τ : Type) (previous snapshot : Snapshot) : Option (WaitNote τ) :=
  if snapshot.version < previous.version then
    some (.versionWentBack snapshot.name snapshot.version previous.version)
  else none

namespace Snapshot

/-- The warnings due for a row of snapshots: those about its neighbours, in their order. -/
def regressions (τ : Type) (snapshots : List Snapshot) : List (WaitNote τ) :=
  (snapshots.zip snapshots.tail).filterMap fun pair => pair.1.regression? τ pair.2

variable {τ : Type}

theorem regressions_cons_cons (previous snapshot : Snapshot) (rest : List Snapshot) :
    regressions τ (previous :: snapshot :: rest) =
      (previous.regression? τ snapshot).toList ++ regressions τ (snapshot :: rest) := by
  unfold regressions
  rw [List.tail_cons, List.zip_cons_cons, List.filterMap_cons]
  dsimp only
  cases previous.regression? τ snapshot <;> rfl

theorem regression?_eq_none_iff {previous snapshot : Snapshot} :
    previous.regression? τ snapshot = none ↔ previous.version ≤ snapshot.version := by
  unfold regression?
  rw [← Int.not_lt]
  split
  · rename_i hlower
    exact iff_of_false nofun (not_not_intro hlower)
  · rename_i hkept
    exact iff_of_true rfl hkept

/-- No warning is due exactly for versions that never decrease. -/
theorem regressions_eq_nil_iff {snapshots : List Snapshot} :
    regressions τ snapshots = [] ↔ (snapshots.map (·.version)).Pairwise (· ≤ ·) := by
  rw [← List.isChain_iff_pairwise]
  induction snapshots with
  | nil => exact iff_of_true rfl .nil
  | cons previous rest ih =>
    cases rest with
    | nil => exact iff_of_true rfl (.singleton _)
    | cons snapshot rest =>
      rw [regressions_cons_cons, List.append_eq_nil_iff, Option.toList_eq_nil_iff,
        regression?_eq_none_iff, ih]
      exact List.isChain_cons_cons.symm

theorem level_of_mem_regressions {snapshots : List Snapshot} {note : WaitNote τ}
    (h : note ∈ regressions τ snapshots) : note.level = .warning := by
  obtain ⟨⟨previous, snapshot⟩, -, hnote⟩ := List.mem_filterMap.mp h
  unfold regression? at hnote
  split at hnote
  · cases hnote
    rfl
  · cases hnote

end Snapshot

namespace Run

variable {τ σ : Type}

/-- The warnings of a run about versions. -/
def regressions (run : Run τ σ) : List (WaitNote τ) := run.notes.filter (·.isRegression)

/-- The warnings that a poll adds, by the last snapshot before it and by what it gets. -/
def regressionsAfter (τ : Type) : Option Snapshot → Except Failure Snapshot → List (WaitNote τ)
  | some previous, .ok snapshot => (previous.regression? τ snapshot).toList
  | _, _ => []

theorem regressions_note {entry : WaitNote τ} (h : entry.isRegression = false) (run : Run τ σ) :
    (run.note entry).regressions = run.regressions := by
  unfold regressions note
  rw [List.filter_append, List.filter_cons_of_neg (by rw [h]; decide), List.filter_nil,
    List.append_nil]

theorem regressions_noteIf {entry : WaitNote τ} (h : entry.isRegression = false)
    (condition : Bool) (run : Run τ σ) :
    (run.noteIf condition entry).regressions = run.regressions := by
  unfold noteIf
  split
  · exact regressions_note h run
  · rfl

theorem regressions_checkVersion (snapshot : Snapshot) (run : Run τ σ) :
    (run.checkVersion snapshot).regressions =
      run.regressions ++ regressionsAfter τ run.last (.ok snapshot) := by
  unfold checkVersion
  cases run.last with
  | none => exact (List.append_nil _).symm
  | some previous =>
    unfold noteIf regressionsAfter Snapshot.regression?
    simp only [decide_eq_true_eq]
    split
    · exact List.filter_append _ _
    · exact (List.append_nil _).symm

theorem regressions_deliver (source : Source τ σ) (snapshot : Snapshot) (met : Bool)
    (run : Run τ σ) : (run.deliver source snapshot met).regressions = run.regressions := by
  unfold deliver
  cases source.sink with
  | none => rfl
  | some sink =>
    dsimp only
    generalize sink run.clock.now snapshot met run.surroundings = reply
    obtain ⟨_ | failure, surroundings⟩ := reply
    · rfl
    · exact regressions_note rfl _

/-- A snapshot is compared before it takes the place of the last one. -/
theorem regressions_receive (source : Source τ σ) (settings : PollSettings τ)
    (expression : String) (snapshot : Snapshot) (run : Run τ σ) :
    (run.receive source settings expression snapshot).2.regressions =
      run.regressions ++ regressionsAfter τ run.last (.ok snapshot) := by
  have hchecked := regressions_checkVersion snapshot
    { run with backoff := run.backoff.success settings }
  unfold receive
  dsimp only
  cases snapshot.evaluate expression with
  | error error => exact hchecked
  | ok met => exact (regressions_deliver source snapshot met _).trans hchecked

/-- The last snapshot of a run and its warnings about versions. -/
def versionLog (run : Run τ σ) : Option Snapshot × List (WaitNote τ) := (run.last, run.regressions)

/-- One more poll, by what it gets. -/
def logVersion (log : Option Snapshot × List (WaitNote τ)) (result : Except Failure Snapshot) :
    Option Snapshot × List (WaitNote τ) :=
  (result.toOption.or log.1, log.2 ++ regressionsAfter τ log.1 result)

/-- The warnings after some polls compare the snapshots that they got; the first one is compared with
the last one before them. -/
theorem foldl_logVersion (got : List (Except Failure Snapshot)) :
    ∀ log : Option Snapshot × List (WaitNote τ),
      (got.foldl logVersion log).2 =
        log.2 ++ Snapshot.regressions τ (log.1.toList ++ Account.snapshots got) := by
  induction got with
  | nil =>
    rintro ⟨_ | last, warnings⟩ <;> exact (List.append_nil warnings).symm
  | cons result got ih =>
    rintro ⟨last, warnings⟩
    rw [List.foldl_cons, ih]
    cases result with
    | error failure =>
      rw [Account.snapshots_error]
      cases last <;> simp [logVersion, regressionsAfter, Except.toOption]
    | ok snapshot =>
      rw [Account.snapshots_ok]
      cases last with
      | none => simp [logVersion, regressionsAfter, Except.toOption]
      | some previous =>
        simp [logVersion, regressionsAfter, Except.toOption, Snapshot.regressions_cons_cons]

variable [Timescale τ]

theorem regressions_fail (settings : PollSettings τ) (failure : Failure) (run : Run τ σ) :
    (run.fail settings failure).2.regressions = run.regressions := by
  unfold fail
  cases run.backoff.failureError settings with
  | some error => rfl
  | none => exact (regressions_note rfl _).trans (regressions_noteIf rfl _ _)

theorem regressions_pollCondition (source : Source τ σ) (settings : PollSettings τ)
    (expression : String) (run : Run τ σ) :
    (run.pollCondition source settings expression).2.regressions =
      run.regressions ++ regressionsAfter τ run.last (run.acquired source) := by
  cases h : run.acquired source with
  | error failure =>
    rw [pollCondition_error h, regressions_fail]
    cases run.last <;> exact (List.append_nil _).symm
  | ok snapshot =>
    rw [pollCondition_ok h]
    exact regressions_receive source settings expression snapshot _

/-- What a turn notes after its poll is about the end of the wait. -/
theorem regressions_turn (source : Source τ σ) (settings : PollSettings τ) (goal : Goal)
    (deadline : τ) (run : Run τ σ) :
    (run.turn source settings goal deadline).run.regressions =
      (run.poll source settings goal).2.regressions := by
  have hgoes := goes_of_turn (Eq.refl (run.turn source settings goal deadline))
  generalize run.turn source settings goal deadline = turn at hgoes ⊢
  cases hgoes with
  | raised hpoll | on hpoll =>
    rw [hpoll]
    rfl
  | met hpoll | cancelled hpoll | expired hpoll | cancelledInPause hpoll | expiredInPause hpoll =>
    rw [hpoll]
    exact regressions_note rfl _

theorem versionLog_turn (source : Source τ σ) (settings : PollSettings τ) (expression : String)
    (deadline : τ) (run : Run τ σ) :
    (run.turn source settings (.condition expression) deadline).run.versionLog =
      logVersion run.versionLog (run.acquired source) := by
  have hlast : (run.turn source settings (.condition expression) deadline).run.last =
      (run.acquired source).toOption.or run.last := by
    rw [turn_frame (·.last) run fun _ _ _ _ _ => rfl]
    have haccount := pollCondition_account source settings expression run
    rw [show (run.poll source settings (.condition expression)).2.last = _ from
      congrArg Account.last haccount]
    cases run.acquired source <;> rfl
  have hwarnings := (regressions_turn source settings (.condition expression) deadline run).trans
    (regressions_pollCondition source settings expression run)
  exact Prod.ext hlast hwarnings

/-- A condition wait has the warnings that are due for its snapshots. -/
theorem loop_regressions (source : Source τ σ) (settings : PollSettings τ) (expression : String)
    (deadline : τ) (n : Nat) (run : Run τ σ) :
    (loop source settings (.condition expression) deadline n run).2.regressions =
      run.regressions ++ Snapshot.regressions τ (run.last.toList ++
        Account.snapshots (gets source settings (.condition expression) deadline n run)) := by
  have hlog := loop_foldl versionLog (fun log run => logVersion log (run.acquired source))
    (versionLog_turn source settings expression deadline) n run
  rw [← List.foldl_map, ← gets] at hlog
  exact (congrArg Prod.snd hlog).trans (foldl_logVersion _ _)

end Run

open Run

/-- A condition wait warns of a version that went backwards exactly once for each two neighbours
among its snapshots of which the second has the lower version, in their order, and names both
versions. So there is no such warning exactly if the versions never decrease. -/
theorem waitFor_regressions {τ σ : Type} [Timescale τ] (source : Source τ σ)
    (settings : PollSettings τ) (expression : String) (clock : Clock τ) (surroundings : σ) (n : Nat) :
    let snapshots := Account.snapshots
      (gets source settings (.condition expression) (clock.now + settings.timeout) n
        (opened settings (.condition expression) clock surroundings))
    let warnings :=
      (waitFor source settings (.condition expression) clock surroundings n).2.notes.filter
        (·.isRegression)
    warnings = Snapshot.regressions τ snapshots ∧
      (∀ warning ∈ warnings, warning.level = .warning) ∧
      (warnings = [] ↔ (snapshots.map (·.version)).Pairwise (· ≤ ·)) := by
  intro snapshots warnings
  have hwarnings : warnings = Snapshot.regressions τ snapshots :=
    loop_regressions source settings expression (clock.now + settings.timeout) n
      (opened settings (.condition expression) clock surroundings)
  rw [hwarnings]
  exact ⟨rfl, fun _ => Snapshot.level_of_mem_regressions, Snapshot.regressions_eq_nil_iff⟩

example : WaitNote.message (.versionWentBack "web" 3 5) =
    "Work web version went backwards: v3 after v5" := by decide +kernel

end WorkWatch
