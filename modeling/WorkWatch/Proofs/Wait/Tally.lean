import WorkWatch.Proofs.Except
import WorkWatch.Proofs.Wait.Backoff
import WorkWatch.Wait.Tally

/-! A tally of polls in closed form. The interval depends on the number of failures since the last
success alone, whatever was entered before that. -/

namespace WorkWatch

open Double

namespace Backoff

/-- The number of failures in a row at the end. -/
def trailing (results : List PollResult) : Nat :=
  (results.reverse.takeWhile (· = .failure)).length

theorem trailing_success (results : List PollResult) : trailing (results ++ [.success]) = 0 := by
  simp [trailing]

theorem trailing_failure (results : List PollResult) :
    trailing (results ++ [.failure]) = trailing results + 1 := by
  simp [trailing]

theorem trailing_le_length (results : List PollResult) : trailing results ≤ results.length :=
  (List.takeWhile_prefix _).length_le.trans_eq List.length_reverse

section Steps

variable {τ : Type} [Timescale τ] {settings : PollSettings τ} {backoff : Backoff τ} {entry : Entry τ}

theorem failureError_eq_none_iff (settings : PollSettings τ) (backoff : Backoff τ) :
    backoff.failureError settings = none ↔ backoff.failures + 1 ≤ longestStreak := by
  rw [Option.eq_none_iff_forall_ne_some, ← Nat.not_lt]
  constructor
  · intro h hlong
    exact h .powerTooLarge (failureError_eq_some_iff.mpr hlong)
  · intro h error herror
    exact h (failureError_eq_some_iff.mp herror)

theorem enter_failure_eq_ok_iff :
    backoff.enter settings .failure = .ok entry ↔
      backoff.failures + 1 ≤ longestStreak ∧
        entry = ⟨backoff.failure settings, some (backoff.failure settings).interval,
          if backoff.isReported settings (backoff.failure settings) then
            some (.intervalIncreased (backoff.failure settings).interval
              (backoff.failure settings).failures settings.cap)
          else none⟩ := by
  rw [enter, ← failureError_eq_none_iff settings backoff]
  cases backoff.failureError settings with
  | none => exact ⟨fun h => ⟨rfl, (Except.ok.inj h).symm⟩, fun h => congrArg Except.ok h.2.symm⟩
  | some error => exact ⟨nofun, fun h => nomatch h.1⟩

theorem tally_append_eq_ok {earlier later : List PollResult} {backoff : Backoff τ}
    (h : tally settings (earlier ++ later) = .ok backoff) :
    ∃ before, tally settings earlier = .ok before := by
  unfold tally at h
  rw [List.foldlM_append, bind_eq_ok_iff] at h
  obtain ⟨before, hbefore, -⟩ := h
  exact ⟨before, hbefore⟩

theorem tally_concat_eq_ok_iff {results : List PollResult} {result : PollResult}
    {after : Backoff τ} :
    tally settings (results ++ [result]) = .ok after ↔
      ∃ before entry, tally settings results = .ok before ∧
        before.enter settings result = .ok entry ∧ entry.backoff = after := by
  unfold tally
  rw [List.foldlM_append, bind_eq_ok_iff]
  refine exists_congr fun before => ?_
  simp only [List.foldlM_cons, List.foldlM_nil, bind_pure]
  rw [map_eq_ok_iff]
  exact exists_and_left.symm

end Steps

/-! In closed form. -/

variable {polling : PollSettings Float} {streak : Nat} {before backoff : Backoff Float}

/-- The backoff after so many failures in a row. -/
structure Follows (polling : PollSettings Float) (streak : Nat) (backoff : Backoff Float) :
    Prop where
  failures : backoff.failures = streak
  finite : Decimal.isFinite backoff.interval = true
  interval : real backoff.interval = polling.exactAfter streak

theorem follows_start (hinterval : IsDuration polling.interval) : Follows polling 0 (start polling) :=
  ⟨rfl, hinterval.1, PollSettings.exactAfter_zero.symm⟩

theorem Follows.failure (hinterval : IsDuration polling.interval) (hcap : IsDuration polling.cap)
    (h : Follows polling streak backoff) (hstreak : streak + 1 ≤ longestStreak) :
    Follows polling (streak + 1) (backoff.failure polling) := by
  obtain ⟨next, hnext, hfinite, hexact⟩ := PollSettings.exists_intervalAfter hinterval hcap hstreak
  have hafter : backoff.failure polling = ⟨streak + 1, next⟩ := by
    unfold Backoff.failure
    rw [h.failures, hnext]
  rw [hafter]
  exact ⟨rfl, hfinite, hexact⟩

theorem tally_follows (hinterval : IsDuration polling.interval) (hcap : IsDuration polling.cap)
    {results : List PollResult} (h : tally polling results = .ok backoff) :
    Follows polling (trailing results) backoff := by
  -- From the end: the last result tells whether the streak before it goes on.
  induction results using List.reverseRecOn generalizing backoff with
  | nil =>
    cases h
    exact follows_start hinterval
  | append_singleton results result ih =>
    obtain ⟨before, entry, hbefore, hentry, rfl⟩ := tally_concat_eq_ok_iff.mp h
    cases result with
    | success =>
      cases hentry
      rw [trailing_success]
      exact follows_start hinterval
    | failure =>
      obtain ⟨hstreak, rfl⟩ := enter_failure_eq_ok_iff.mp hentry
      have hfollows := ih hbefore
      rw [hfollows.failures] at hstreak
      rw [trailing_failure]
      exact hfollows.failure hinterval hcap hstreak

/-- The results of a row can all be entered as long as no streak in it is too long. -/
theorem exists_tally_iff (hinterval : IsDuration polling.interval) (hcap : IsDuration polling.cap)
    {results : List PollResult} :
    (∃ backoff, tally polling results = .ok backoff) ↔
      ∀ earlier, earlier <+: results → trailing earlier ≤ longestStreak := by
  constructor
  · rintro ⟨backoff, h⟩ earlier ⟨later, rfl⟩
    -- The part was entered before the rest, and its last failure only if its streak was short enough.
    obtain ⟨after, hafter⟩ := tally_append_eq_ok h
    induction earlier using List.reverseRecOn with
    | nil => exact Nat.zero_le _
    | append_singleton earlier result =>
      obtain ⟨before, entry, hbefore, hentry, -⟩ := tally_concat_eq_ok_iff.mp hafter
      cases result with
      | success => exact (trailing_success earlier).symm ▸ Nat.zero_le _
      | failure =>
        rw [trailing_failure, ← (tally_follows hinterval hcap hbefore).failures]
        exact (enter_failure_eq_ok_iff.mp hentry).1
  · intro h
    induction results using List.reverseRecOn with
    | nil => exact ⟨start polling, rfl⟩
    | append_singleton results result ih =>
      obtain ⟨before, hbefore⟩ := ih fun earlier hearlier =>
        h earlier (hearlier.trans (List.prefix_append _ _))
      have hentry : ∃ entry, before.enter polling result = .ok entry := by
        cases result with
        | success => exact ⟨_, rfl⟩
        | failure =>
          have hstreak := h _ (List.prefix_refl _)
          rw [trailing_failure, ← (tally_follows hinterval hcap hbefore).failures] at hstreak
          exact ⟨_, enter_failure_eq_ok_iff.mpr ⟨hstreak, rfl⟩⟩
      obtain ⟨entry, hentry⟩ := hentry
      exact ⟨entry.backoff, tally_concat_eq_ok_iff.mpr ⟨before, entry, hbefore, hentry, rfl⟩⟩

theorem isReported_iff {after : Backoff Float} (hcap : Decimal.isFinite polling.cap = true)
    (hbefore : Decimal.isFinite before.interval = true)
    (hafter : Decimal.isFinite after.interval = true) :
    before.isReported polling after = true ↔
      real after.interval ≠ real before.interval ∧
        (3 ∣ after.failures ∨ real polling.cap ≤ real after.interval) := by
  have hchanged : (after.interval != before.interval) = true ↔
      real after.interval ≠ real before.interval := by
    rw [bne, Bool.not_eq_true', ← Bool.not_eq_true]
    exact not_congr (beq_iff_real_eq hafter hbefore)
  rw [isReported, Bool.and_eq_true, Bool.or_eq_true, beq_iff_eq, decide_eq_true_iff, hchanged,
    ← Nat.dvd_iff_mod_eq_zero]
  exact and_congr_right fun _ => or_congr_right (le_iff_real_le hcap hafter)

theorem enter_note (hcap : Decimal.isFinite polling.cap = true) {entry : Entry Float}
    (hbefore : Decimal.isFinite before.interval = true)
    (hafter : Decimal.isFinite entry.backoff.interval = true) {result : PollResult}
    (hentry : before.enter polling result = .ok entry) :
    (entry.note?.isSome = true ↔
      result = .failure ∧ real entry.backoff.interval ≠ real before.interval ∧
        (3 ∣ entry.backoff.failures ∨ real polling.cap ≤ real entry.backoff.interval)) ∧
    ∀ note ∈ entry.note?,
      note = .intervalIncreased entry.backoff.interval entry.backoff.failures polling.cap := by
  cases result with
  | success =>
    cases hentry
    exact ⟨⟨nofun, fun h => nomatch h.1⟩, nofun⟩
  | failure =>
    obtain ⟨-, rfl⟩ := enter_failure_eq_ok_iff.mp hentry
    have hreported := isReported_iff hcap hbefore hafter
    dsimp only at hafter hreported ⊢
    split
    · rename_i hnoted
      refine ⟨iff_of_true rfl ⟨rfl, hreported.mp hnoted⟩, ?_⟩
      rintro note ⟨⟩
      rfl
    · rename_i hsilent
      exact ⟨iff_of_false Bool.false_ne_true fun h => hsilent (hreported.mpr h.2), nofun⟩

/-- After a row of results that can all be entered, the count is that of the failures in a row at the
end, and the interval is that of the settings, doubled once for every failure but the first, or the
cap if that is less. Each failure of the row hands back the interval that it leaves, and is noted if
and only if it changes the interval and either is every third of its streak or reaches the cap. -/
theorem tally_exact (hinterval : IsDuration polling.interval) (hcap : IsDuration polling.cap)
    {results : List PollResult} (h : tally polling results = .ok backoff) :
    (backoff.failures = trailing results ∧
      real backoff.interval = polling.exactAfter (trailing results)) ∧
    ∀ (earlier later : List PollResult) (result : PollResult),
      results = earlier ++ [result] ++ later →
      ∃ before entry, tally polling earlier = .ok before ∧
        before.enter polling result = .ok entry ∧
        tally polling (earlier ++ [result]) = .ok entry.backoff ∧
        (result = .failure → entry.interval? = some entry.backoff.interval) ∧
        (entry.note?.isSome = true ↔
          result = .failure ∧ real entry.backoff.interval ≠ real before.interval ∧
            (3 ∣ trailing (earlier ++ [result]) ∨
              real polling.cap ≤ real entry.backoff.interval)) ∧
        ∀ note ∈ entry.note?, note.level = .info ∧
          note = .intervalIncreased entry.backoff.interval (trailing (earlier ++ [result]))
            polling.cap := by
  have hfollows := tally_follows hinterval hcap h
  refine ⟨⟨hfollows.failures, hfollows.interval⟩, ?_⟩
  rintro earlier later result rfl
  obtain ⟨after, hafter⟩ := tally_append_eq_ok h
  obtain ⟨before, entry, hbefore, hentry, rfl⟩ := tally_concat_eq_ok_iff.mp hafter
  have hfollowsBefore := tally_follows hinterval hcap hbefore
  have hfollowsAfter := tally_follows hinterval hcap hafter
  obtain ⟨hnoted, hnote⟩ := enter_note hcap.1 hfollowsBefore.finite hfollowsAfter.finite hentry
  rw [hfollowsAfter.failures] at hnoted hnote
  refine ⟨before, entry, hbefore, hentry, hafter, ?_, hnoted, fun note hmem => ?_⟩
  · rintro rfl
    obtain ⟨-, rfl⟩ := enter_failure_eq_ok_iff.mp hentry
    rfl
  · rw [hnote note hmem]
    exact ⟨rfl, rfl⟩

/-- Three failures and, after a success, one more. -/
theorem tally_exact_reset :
    let polling : PollSettings Float := ⟨1, 300, 300⟩
    IsDuration polling.interval ∧ IsDuration polling.cap ∧
    ∃ backoff, tally polling [.failure, .failure, .failure, .success, .failure] = .ok backoff ∧
      backoff.failures = 1 ∧ real backoff.interval = polling.exactAfter 1 ∧
      ∃ before entry, tally polling [.failure, .failure] = .ok before ∧
        before.enter polling .failure = .ok entry ∧
        entry.interval? = some entry.backoff.interval ∧
        (entry.note?.isSome = true ↔
          real entry.backoff.interval ≠ real before.interval) := by
  intro polling
  have hinterval : IsDuration polling.interval := by decide +kernel
  have hcap : IsDuration polling.cap := by decide +kernel
  have hshort : ∀ earlier : List PollResult,
      earlier <+: [.failure, .failure, .failure, .success, .failure] →
        trailing earlier ≤ longestStreak := fun earlier hprefix =>
    ((trailing_le_length earlier).trans hprefix.length_le).trans (by decide)
  obtain ⟨backoff, h⟩ := (exists_tally_iff hinterval hcap).mpr hshort
  obtain ⟨⟨hfailures, hexact⟩, hentries⟩ := tally_exact hinterval hcap h
  obtain ⟨before, entry, hbefore, hentry, -, hreturned, hnoted, -⟩ :=
    hentries [.failure, .failure] [.success, .failure] .failure rfl
  refine ⟨hinterval, hcap, backoff, h, hfailures, hexact, before, entry, hbefore, hentry,
    hreturned rfl, hnoted.trans ⟨fun hall => hall.2.1, fun hchanged => ?_⟩⟩
  exact ⟨rfl, hchanged, .inl (by decide)⟩

end Backoff

namespace Run

variable {τ σ : Type} [Timescale τ]

/-- A failed poll of a condition wait enters a failure, and is counted even where that fails. -/
theorem fail_eq_enter (settings : PollSettings τ) (failure : Failure) (run : Run τ σ) :
    run.fail settings failure =
      match run.backoff.enter settings .failure with
      | .error error =>
        (.raised (.backoff error), { run with
          backoff := run.backoff.failure settings
          failures := run.failures + 1 })
      | .ok entry =>
        (.notMet, { run with
          backoff := entry.backoff
          failures := run.failures + 1
          notes := run.notes ++ entry.note?.toList ++
            [.pollFailed failure.reason.code failure.message entry.backoff.interval] }) := by
  unfold fail Backoff.enter
  cases run.backoff.failureError settings with
  | some error => rfl
  | none =>
    dsimp only
    unfold noteIf note
    split <;> simp

end Run

end WorkWatch
