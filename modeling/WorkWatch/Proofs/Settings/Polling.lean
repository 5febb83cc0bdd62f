import WorkWatch.Proofs.Settings.Valid
import WorkWatch.Proofs.Wait.Deadline

/-! How the settings of a command poll. Its times are finite and above zero. Backing off never
polls more often than at first, unless the command's own interval exceeds the cap, which is only
compared with the interval of the environment. -/

namespace WorkWatch

open Double

theorem le_lesser {x y z : Float} (hy : x ≤ y) (hz : x ≤ z) : x ≤ Timescale.lesser y z := by
  unfold Timescale.lesser
  split
  · exact hz
  · exact hy

theorem isNumber_of_isDuration {x : Float} (h : IsDuration x) : IsNumber x :=
  (isFinite_iff.mp h.1).1

namespace PollSettings

variable {polling : PollSettings Float}

theorem intervalAfter_one :
    polling.intervalAfter 1 =
      .ok (Timescale.lesser (Timescale.scale polling.interval 0) polling.cap) := by
  rw [intervalAfter, if_neg (Nat.not_lt_zero _)]

theorem le_intervalAfter (hinterval : 0 < polling.interval)
    (horder : polling.interval ≤ polling.cap) {failures : Nat} {next : Float}
    (h : polling.intervalAfter failures = .ok next) : polling.interval ≤ next := by
  cases failures with
  | zero =>
    cases h
    have hnumber := (isNumber_of_lt hinterval).2
    exact le_iff.mpr ⟨hnumber, hnumber, le_refl _⟩
  | succ failures =>
    rw [intervalAfter] at h
    split at h
    · cases h
    · rename_i hpower
      cases h
      apply le_lesser _ horder
      exact le_mul_floatPower hinterval (Nat.not_lt.mp hpower)

/-- Backing off never shortens the interval if and only if the cap is not below it. -/
theorem le_intervalAfter_iff (hinterval : IsDuration polling.interval)
    (hcap : IsDuration polling.cap) :
    (∀ failures next, polling.intervalAfter failures = .ok next → polling.interval ≤ next) ↔
      polling.interval ≤ polling.cap := by
  constructor
  · intro h
    have hle := h 1 _ intervalAfter_one
    have hscaled : IsNumber (Timescale.scale polling.interval 0) :=
      isNumber_mul hinterval.2 (floatPower_pos (Nat.zero_le _))
    exact Double.le_trans hle (lesser_le_right hscaled (isNumber_of_isDuration hcap))
  · intro horder failures next h
    exact le_intervalAfter hinterval.2 horder h

end PollSettings

namespace Settings

variable {settings : Settings} {timeout interval : Option Float} {polling : PollSettings Float}

theorem IsValid.order_le (h : settings.IsValid) :
    settings.polling.interval ≤ settings.polling.cap :=
  Double.le_of_not_lt (isNumber_of_isDuration h.interval) (isNumber_of_isDuration h.cap) h.order

/-- Valid settings with an interval and a timeout of a command's own, each absent or accepted, make
finite times above zero. The cap is not below the interval, and backing off never shortens it, if
and only if the command's own interval does not exceed the cap. -/
theorem pollSettings_order_iff (hvalid : settings.validate = .ok ())
    (hpolling : settings.pollSettings timeout interval = .ok polling) :
    (IsDuration polling.interval ∧ IsDuration polling.timeout ∧ IsDuration polling.cap) ∧
    (polling.interval ≤ polling.cap ↔ ∀ own, interval = some own → own ≤ settings.polling.cap) ∧
    ((∀ failures next, polling.intervalAfter failures = .ok next → polling.interval ≤ next) ↔
      polling.interval ≤ polling.cap) := by
  have hvalid := validate_eq_ok_iff.mp hvalid
  obtain ⟨hinterval, htimeout, rfl⟩ := pollSettings_eq_ok_iff.mp hpolling
  have hasked : IsDuration (interval.getD settings.polling.interval) := by
    cases interval with
    | none => exact hvalid.interval
    | some own => exact hinterval own rfl
  have hwaited : IsDuration (timeout.getD settings.polling.timeout) := by
    cases timeout with
    | none => exact hvalid.timeout
    | some own => exact htimeout own rfl
  refine ⟨⟨hasked, hwaited, hvalid.cap⟩, ?_, PollSettings.le_intervalAfter_iff hasked hvalid.cap⟩
  cases interval with
  | none => exact ⟨fun _ => nofun, fun _ => hvalid.order_le⟩
  | some own => exact ⟨fun h _ hown => Option.some.inj hown ▸ h, fun h => h own rfl⟩

/-- A command that polls every two seconds and gives up after a minute. -/
theorem pollSettings_order_iff_prompt :
    let polling : PollSettings Float := ⟨2, 60, 300⟩
    defaults.validate = .ok () ∧
    defaults.pollSettings (some 60) (some 2) = .ok polling ∧
    (IsDuration polling.interval ∧ IsDuration polling.timeout ∧ IsDuration polling.cap) ∧
    polling.interval ≤ polling.cap ∧
    ∀ failures next, polling.intervalAfter failures = .ok next → polling.interval ≤ next := by
  intro polling
  have hvalid : defaults.validate = .ok () := validate_eq_ok_iff.mpr isValid_defaults
  have htwo : IsDuration 2 := by decide +kernel
  have hminute : IsDuration 60 := by decide +kernel
  have hpolling : defaults.pollSettings (some 60) (some 2) = .ok polling :=
    pollSettings_eq_ok_iff.mpr
      ⟨fun _ h => Option.some.inj h ▸ htwo, fun _ h => Option.some.inj h ▸ hminute, rfl⟩
  obtain ⟨htimes, horder, hsteady⟩ := pollSettings_order_iff hvalid hpolling
  have hbelow : (2 : Float) ≤ 300 := by decide +kernel
  have hle := horder.mpr fun _ h => Option.some.inj h ▸ hbelow
  exact ⟨hvalid, hpolling, htimes, hle, hsteady.mpr hle⟩

/-- An interval of ten minutes passes, although the cap is five; the first failure halves it. -/
theorem pollSettings_shortens :
    ofEnvironment [] = .ok defaults ∧ defaults.validate = .ok () ∧
    ∃ polling, defaults.pollSettings none (some 600) = .ok polling ∧
      polling.cap < polling.interval ∧
      ∃ next, polling.intervalAfter 1 = .ok next ∧ next < polling.interval := by
  have hinterval : IsDuration 600 := by decide +kernel
  have hpolling : defaults.pollSettings none (some 600) = .ok ⟨600, 300, 300⟩ :=
    pollSettings_eq_ok_iff.mpr ⟨fun _ h => Option.some.inj h ▸ hinterval, nofun, rfl⟩
  have hnext : Timescale.lesser (Timescale.scale (600 : Float) 0) 300 < 600 := by decide +kernel
  have hcap : (300 : Float) < 600 := by decide +kernel
  exact ⟨ofEnvironment_nil, validate_eq_ok_iff.mpr isValid_defaults, _, hpolling, hcap, _,
    PollSettings.intervalAfter_one, hnext⟩

end Settings

end WorkWatch
