import WorkWatch.Proofs.Settings.Polling

/-! Numbers that can be used. Validation lets none through that cannot, with one exception: the
request timeout is only compared with zero, which NaN and infinity pass. -/

namespace WorkWatch

/-- Times that are finite and above zero, with the cap not below the interval. -/
structure PollSettings.IsUsable (polling : PollSettings Float) : Prop where
  interval : IsDuration polling.interval
  timeout : IsDuration polling.timeout
  cap : IsDuration polling.cap
  order : polling.interval ≤ polling.cap

/-- The request timeout limits nothing, but is not refused by its sign: NaN, or infinite. -/
def Connection.IsUnlimited (connection : Connection) : Prop :=
  ¬ Decimal.isFinite connection.timeout ∧ ¬ connection.timeout ≤ 0

theorem isDuration_iff_of_not_le_zero {x : Float} (h : ¬ x ≤ 0) :
    IsDuration x ↔ Decimal.isFinite x := by
  refine ⟨fun hx => hx.1, fun hfinite => ⟨hfinite, ?_⟩⟩
  exact Double.lt_of_not_le Double.isNumber_zero (Double.isFinite_iff.mp hfinite).1 h

namespace Settings

/-- All the numbers of the settings can be used. -/
structure HasUsableNumbers (settings : Settings) : Prop where
  requestTimeout : IsDuration settings.connection.timeout
  retries : 0 ≤ settings.connection.retries
  polling : settings.polling.IsUsable

/-- The same settings with another request timeout. -/
def withRequestTimeout (settings : Settings) (timeout : Float) : Settings :=
  { settings with connection := { settings.connection with timeout := timeout } }

variable {env : Environment} {settings : Settings} {timeout : Float}

theorem IsValid.polling (h : settings.IsValid) : settings.polling.IsUsable :=
  ⟨h.interval, h.timeout, h.cap, h.order_le⟩

theorem IsValid.requestTimeout_iff (h : settings.IsValid) :
    IsDuration settings.connection.timeout ↔ Decimal.isFinite settings.connection.timeout :=
  isDuration_iff_of_not_le_zero h.requestTimeout

theorem IsValid.withRequestTimeout (h : settings.IsValid) (htimeout : ¬ timeout ≤ 0) :
    (settings.withRequestTimeout timeout).IsValid :=
  { h with requestTimeout := htimeout }

theorem IsValid.isUnlimited (h : settings.IsValid) (hunusable : ¬ settings.HasUsableNumbers) :
    settings.connection.IsUnlimited := by
  refine ⟨fun hfinite => hunusable ?_, h.requestTimeout⟩
  exact ⟨h.requestTimeout_iff.mpr hfinite, h.retries, h.polling⟩

theorem isValid_iff_of_unusable (hunusable : ¬ settings.HasUsableNumbers) :
    settings.IsValid ↔
      settings.connection.IsUnlimited ∧ (settings.withRequestTimeout 30).IsValid := by
  constructor
  · intro h
    have hdefault : ¬ (30 : Float) ≤ 0 := isValid_defaults.requestTimeout
    exact ⟨h.isUnlimited hunusable, h.withRequestTimeout hdefault⟩
  · rintro ⟨hunlimited, h⟩
    exact h.withRequestTimeout hunlimited.2

theorem exists_error_iff : (∃ error, settings.validate = .error error) ↔ ¬ settings.IsValid := by
  rw [← validate_eq_ok_iff]
  cases settings.validate with
  | ok => exact ⟨nofun, fun h => absurd rfl h⟩
  | error error => exact ⟨fun _ => nofun, fun _ => ⟨error, rfl⟩⟩

theorem readFloat_requestTimeout (h : ofEnvironment env = .ok settings) :
    readFloat env "MAESTRO_HTTP_TIMEOUT_SECONDS" 30 = .ok settings.connection.timeout := by
  obtain ⟨_, -, h⟩ := bind_eq_ok_iff.mp h
  obtain ⟨_, -, h⟩ := bind_eq_ok_iff.mp h
  obtain ⟨timeout, htimeout, h⟩ := bind_eq_ok_iff.mp h
  obtain ⟨_, -, h⟩ := bind_eq_ok_iff.mp h
  obtain ⟨_, -, h⟩ := bind_eq_ok_iff.mp h
  obtain ⟨_, -, h⟩ := bind_eq_ok_iff.mp h
  obtain ⟨_, -, h⟩ := bind_eq_ok_iff.mp h
  rw [← Except.ok.inj h]
  exact htimeout

/-- A number that is read is finite if the one in the environment is, and so is the default. -/
theorem isFinite_readFloat_iff {name : String} {default x : Float}
    (h : readFloat env name default = .ok x) (hdefault : Decimal.isFinite default) :
    Decimal.isFinite x ↔
      ∀ text, env.get? name = some text → ∀ y, Decimal.readFloat? text = some y →
        Decimal.isFinite y := by
  unfold readFloat at h
  cases hget : env.get? name with
  | none =>
    simp only [hget] at h
    cases h
    exact ⟨fun _ _ => nofun, fun _ => hdefault⟩
  | some text =>
    cases hread : Decimal.readFloat? text with
    | none => simp [hget, hread] at h
    | some y =>
      simp only [hget, hread] at h
      cases h
      constructor
      · rintro hfinite _ ⟨⟩ _ hy
        exact Option.some.inj (hread.symm.trans hy) ▸ hfinite
      · exact fun hall => hall text rfl x hread

/-- Every number of valid settings of an environment can be used, but for the request timeout if the
environment gives NaN or an infinite one. Settings with a number that cannot be used are refused,
unless their only fault is a request timeout that is NaN or infinite. -/
theorem validate_usable (env : Environment) (settings : Settings) :
    (ofEnvironment env = .ok settings → settings.validate = .ok () →
      0 ≤ settings.connection.retries ∧ settings.polling.IsUsable ∧
      (IsDuration settings.connection.timeout ↔
        ∀ text, env.get? "MAESTRO_HTTP_TIMEOUT_SECONDS" = some text →
          ∀ x, Decimal.readFloat? text = some x → Decimal.isFinite x)) ∧
    (¬ settings.HasUsableNumbers →
      ((∃ error, settings.validate = .error error) ↔
        ¬ (settings.connection.IsUnlimited ∧
          (settings.withRequestTimeout 30).validate = .ok ()))) := by
  constructor
  · intro hread hvalidate
    have hvalid := validate_eq_ok_iff.mp hvalidate
    refine ⟨hvalid.retries, hvalid.polling, hvalid.requestTimeout_iff.trans ?_⟩
    exact isFinite_readFloat_iff (readFloat_requestTimeout hread) (by decide +kernel)
  · intro hunusable
    rw [exists_error_iff, isValid_iff_of_unusable hunusable, validate_eq_ok_iff]

theorem ofEnvironment_requestTimeout {text : String} (h : Decimal.readFloat? text = some timeout) :
    ofEnvironment [("MAESTRO_HTTP_TIMEOUT_SECONDS", text)] =
      .ok (defaults.withRequestTimeout timeout) := by
  obtain ⟨hblank, hformat, hlevel⟩ := default_words
  simp [ofEnvironment, defaults, withRequestTimeout, readBool, readFloat, readInt, readText,
    readWord, pathSetting, resultsVariable, Fields.get?, h, hblank, hformat, hlevel, bind,
    Except.bind, pure, Except.pure]

/-- Half a second for a request can be used; a negative number of retries is refused. -/
theorem validate_usable_brief :
    let env : Environment := [("MAESTRO_HTTP_TIMEOUT_SECONDS", "0.5")]
    let brief := defaults.withRequestTimeout 0.5
    let negative : Settings := { defaults with connection.retries := -1 }
    ofEnvironment env = .ok brief ∧ brief.validate = .ok () ∧
    IsDuration brief.connection.timeout ∧ ¬ negative.HasUsableNumbers ∧
    ∃ error, negative.validate = .error error := by
  intro env brief negative
  have hhalf : Decimal.readFloat? "0.5" = some 0.5 := by decide +kernel
  have hpositive : ¬ (0.5 : Float) ≤ 0 := by decide +kernel
  have hread : ofEnvironment env = .ok brief := ofEnvironment_requestTimeout hhalf
  have hvalid : brief.validate = .ok () :=
    validate_eq_ok_iff.mpr (isValid_defaults.withRequestTimeout hpositive)
  have husable : IsDuration brief.connection.timeout := by
    apply ((validate_usable env brief).1 hread hvalid).2.2.mpr
    rintro _ ⟨⟩ x hx
    have hx : 0.5 = x := Option.some.inj (hhalf.symm.trans hx)
    rw [← hx]
    decide +kernel
  have hunusable : ¬ negative.HasUsableNumbers := fun h => absurd h.retries (by decide)
  refine ⟨hread, hvalid, husable, hunusable, ((validate_usable env negative).2 hunusable).mpr ?_⟩
  rintro ⟨⟨hinfinite, -⟩, -⟩
  exact hinfinite (by decide +kernel)

theorem exists_validate_of_unlimited {text : String} (hread : Decimal.readFloat? text = some timeout)
    (hsign : ¬ timeout ≤ 0) (hunlimited : ¬ Decimal.isFinite timeout) :
    ∃ settings, ofEnvironment [("MAESTRO_HTTP_TIMEOUT_SECONDS", text)] = .ok settings ∧
      settings.validate = .ok () ∧ ¬ settings.HasUsableNumbers :=
  ⟨_, ofEnvironment_requestTimeout hread,
    validate_eq_ok_iff.mpr (isValid_defaults.withRequestTimeout hsign),
    fun husable => hunlimited husable.requestTimeout.1⟩

/-- A request timeout that is no number passes, and so does an infinite one. -/
theorem validate_unlimited :
    (∃ settings, ofEnvironment [("MAESTRO_HTTP_TIMEOUT_SECONDS", "nan")] = .ok settings ∧
      settings.validate = .ok () ∧ ¬ settings.HasUsableNumbers) ∧
    (∃ settings, ofEnvironment [("MAESTRO_HTTP_TIMEOUT_SECONDS", "inf")] = .ok settings ∧
      settings.validate = .ok () ∧ ¬ settings.HasUsableNumbers) := by
  have hnan : Decimal.readFloat? "nan" = some Decimal.nan := by decide +kernel
  have hinfinite : Decimal.readFloat? "inf" = some (1 / 0) := by decide +kernel
  constructor
  · exact exists_validate_of_unlimited hnan (by decide +kernel) (by decide +kernel)
  · exact exists_validate_of_unlimited hinfinite (by decide +kernel) (by decide +kernel)

end Settings

end WorkWatch
