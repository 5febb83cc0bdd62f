import WorkWatch.Proofs.Except
import WorkWatch.Settings.Basic

/-! Settings that can be used. What validation asks of settings, all at once; the settings that are
loaded are those of the environment with the flags over them, if they are valid; and an interval or
a timeout of a command's own must be a finite number above zero. -/

namespace WorkWatch

/-- A finite number of seconds above zero. -/
def IsDuration (x : Float) : Prop := Decimal.isFinite x = true ∧ 0 < x

instance (x : Float) : Decidable (IsDuration x) := inferInstanceAs (Decidable (_ ∧ _))

namespace Settings

theorem requirePositive_eq_ok_iff {name : String} {value : Float} :
    requirePositive name value = .ok () ↔ IsDuration value := by
  unfold requirePositive IsDuration
  split
  · rename_i h
    simpa using h
  · rename_i h
    simpa using h

theorem require_eq_ok_iff {condition : Bool} {error : SettingsError} :
    require condition error = .ok () ↔ condition = true := by
  cases condition <;> simp [require]

/-- What settings must be like to be used. -/
structure IsValid (settings : Settings) : Prop where
  endpoint : Endpoint.check settings.connection.endpoint = .ok ()
  requestTimeout : ¬ settings.connection.timeout ≤ 0
  retries : 0 ≤ settings.connection.retries
  interval : IsDuration settings.polling.interval
  timeout : IsDuration settings.polling.timeout
  cap : IsDuration settings.polling.cap
  order : ¬ settings.polling.cap < settings.polling.interval
  format : settings.format ∈ SettingsError.formats
  logLevel : settings.logLevel ∈ SettingsError.logLevels

variable {settings : Settings}

theorem validate_eq_ok_iff : settings.validate = .ok () ↔ settings.IsValid := by
  have hvalid : settings.IsValid ↔
      Endpoint.check settings.connection.endpoint = .ok () ∧
      ¬ settings.connection.timeout ≤ 0 ∧ 0 ≤ settings.connection.retries ∧
      IsDuration settings.polling.interval ∧ IsDuration settings.polling.timeout ∧
      IsDuration settings.polling.cap ∧ ¬ settings.polling.cap < settings.polling.interval ∧
      settings.format ∈ SettingsError.formats ∧ settings.logLevel ∈ SettingsError.logLevels :=
    ⟨fun ⟨h₁, h₂, h₃, h₄, h₅, h₆, h₇, h₈, h₉⟩ => ⟨h₁, h₂, h₃, h₄, h₅, h₆, h₇, h₈, h₉⟩,
      fun ⟨h₁, h₂, h₃, h₄, h₅, h₆, h₇, h₈, h₉⟩ => ⟨h₁, h₂, h₃, h₄, h₅, h₆, h₇, h₈, h₉⟩⟩
  rw [hvalid]
  simp only [validate, check_bind_eq_ok_iff, mapError_eq_ok_iff, requirePositive_eq_ok_iff,
    require_eq_ok_iff, Bool.not_eq_true', decide_eq_true_eq, decide_eq_false_iff_not,
    List.contains_iff_mem]

theorem load_eq_ok_iff {env : Environment} {flags : Overrides} :
    load env flags = .ok settings ↔
      ∃ read, ofEnvironment env = .ok read ∧ settings = read.override flags ∧ settings.IsValid := by
  unfold load
  rw [bind_eq_ok_iff]
  refine exists_congr fun read => and_congr_right fun _ => ?_
  rw [check_bind_eq_ok_iff, validate_eq_ok_iff]
  constructor
  · rintro ⟨hvalid, ⟨⟩⟩
    exact ⟨rfl, hvalid⟩
  · rintro ⟨rfl, hvalid⟩
    exact ⟨hvalid, rfl⟩

/-- What the settings are when no variable is set. -/
def defaults : Settings :=
  ⟨⟨defaultEndpoint, false, 30, 3⟩, ⟨1, 300, 300⟩, "yaml", none, "info"⟩

/-- Reading leaves the words of the defaults as they are. -/
theorem default_words : Text.stripped "" = "" ∧ Text.lower (Text.stripped "yaml") = "yaml" ∧
    Text.lower (Text.stripped "info") = "info" := by
  decide +kernel

theorem ofEnvironment_nil : ofEnvironment [] = .ok defaults := by
  obtain ⟨hblank, hformat, hlevel⟩ := default_words
  simp [ofEnvironment, defaults, readBool, readFloat, readInt, readText, readWord, pathSetting,
    hblank, hformat, hlevel, bind, Except.bind, pure, Except.pure]

/-- Every default passes its own check. -/
theorem isValid_defaults : defaults.IsValid where
  endpoint := by rfl
  requestTimeout := by decide +kernel
  retries := by decide
  interval := by decide +kernel
  timeout := by decide +kernel
  cap := by decide +kernel
  order := by decide +kernel
  format := by decide
  logLevel := by decide

/-- The interval and the timeout that a command gives take the place of the settings' own. The cap
stays. -/
theorem pollSettings_eq_ok_iff {timeout interval : Option Float} {polling : PollSettings Float} :
    settings.pollSettings timeout interval = .ok polling ↔
      (∀ own, interval = some own → IsDuration own) ∧ (∀ own, timeout = some own → IsDuration own) ∧
      polling = ⟨interval.getD settings.polling.interval, timeout.getD settings.polling.timeout,
        settings.polling.cap⟩ := by
  have hreturn (made : PollSettings Float) :
      (pure made : Except SettingsError (PollSettings Float)) = .ok polling ↔ polling = made :=
    ⟨fun h => by cases h; rfl, fun h => by cases h; rfl⟩
  cases interval <;> cases timeout <;>
    simp only [pollSettings, check_bind_eq_ok_iff, requirePositive_eq_ok_iff, hreturn,
      Option.getD_none, Option.getD_some, reduceCtorEq, false_imp_iff, implies_true, true_and,
      Option.some.injEq, forall_eq']

end Settings

end WorkWatch
