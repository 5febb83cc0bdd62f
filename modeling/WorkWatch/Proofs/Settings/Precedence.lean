import WorkWatch.Proofs.Settings.Valid

/-! Flags over the environment. A variable that a flag stands in for has no effect on the settings,
nor on whether they can be loaded, with one exception: the two variables about insecure connections
are read before the flag is looked at, and reading them may fail. -/

namespace WorkWatch

open Text

/-- The variables that flags stand in for. An empty flag stands in for nothing. -/
def Overrides.replaced (flags : Overrides) : List String :=
  (if flags.endpoint.any (!·.isEmpty) then ["MAESTRO_HTTP_ENDPOINT"] else []) ++
  (if flags.insecure.isSome then ["MAESTRO_INSECURE", "MAESTRO_GRPC_INSECURE"] else []) ++
  (if flags.format.any (!·.isEmpty) then ["MAESTRO_CLI_OUTPUT"] else []) ++
  (if flags.results.isSome then [Settings.resultsVariable] else []) ++
  (if flags.verbose then ["MAESTRO_CLI_LOG_LEVEL"] else [])

/-- The environments only differ in what flags stand in for. -/
def Overrides.Hides (flags : Overrides) (first second : Environment) : Prop :=
  ∀ name, name ∉ flags.replaced → first.get? name = second.get? name

theorem Overrides.mem_replaced_iff {flags : Overrides} {name : String} :
    name ∈ flags.replaced ↔
      flags.endpoint.any (!·.isEmpty) ∧ name = "MAESTRO_HTTP_ENDPOINT" ∨
      flags.insecure.isSome ∧ (name = "MAESTRO_INSECURE" ∨ name = "MAESTRO_GRPC_INSECURE") ∨
      flags.format.any (!·.isEmpty) ∧ name = "MAESTRO_CLI_OUTPUT" ∨
      flags.results.isSome ∧ name = Settings.resultsVariable ∨
      flags.verbose ∧ name = "MAESTRO_CLI_LOG_LEVEL" := by
  simp [replaced]

theorem Overrides.hides_nil {flags : Overrides} {env : Environment}
    (h : ∀ name ∈ env.names, name ∈ flags.replaced) : flags.Hides env [] := by
  intro name hname
  rw [Fields.get?_of_not_mem fun hmem => hname (h name hmem)]
  rfl

namespace Settings

variable {first second env : Environment} {flags : Overrides} {name : String}

/-- The words that a variable may hold for true, for false, or for nothing. -/
def clearWords : List String := ["1", "true", "yes", "on", "0", "false", "no", "off", ""]

/-- The text of a variable stands neither for true nor for false, and is not blank. -/
def Unclear (env : Environment) (name : String) (error : SettingsError) : Prop :=
  ∃ text, env.get? name = some text ∧ lower (stripped text) ∉ clearWords ∧
    error = .notBoolean name text

theorem readBool_eq_error_iff (default : Bool) {error : SettingsError} :
    readBool env name default = .error error ↔ Unclear env name error := by
  unfold readBool Unclear
  cases hget : env.get? name with
  | none => exact ⟨nofun, fun ⟨_, h, _⟩ => nomatch h⟩
  | some text =>
    simp only [Option.some.injEq, exists_eq_left']
    generalize lower (stripped text) = word
    simp only [String.isEmpty_iff, List.contains_iff_mem, clearWords, List.mem_cons,
      List.not_mem_nil, or_false, not_or]
    split
    · simp_all
    · split
      · rename_i h
        rcases h with h | h | h | h <;> simp [h]
      · split
        · rename_i h
          rcases h with h | h | h | h <;> simp [h]
        · simp_all [eq_comm]

/-- Whether connections may be insecure, as the environment has it. -/
def readInsecure (env : Environment) : Except SettingsError Bool := do
  let insecure ← readBool env "MAESTRO_GRPC_INSECURE" false
  readBool env "MAESTRO_INSECURE" insecure

def insecureVariables : List String := ["MAESTRO_GRPC_INSECURE", "MAESTRO_INSECURE"]

theorem readInsecure_eq_error_iff {error : SettingsError} :
    readInsecure env = .error error ↔ First (Unclear env) insecureVariables error := by
  have hlast : First (Unclear env) ["MAESTRO_INSECURE"] error ↔
      Unclear env "MAESTRO_INSECURE" error := by
    rw [first_cons_iff]
    exact or_iff_left fun ⟨_, h⟩ => nomatch h
  unfold insecureVariables
  rw [first_cons_iff, hlast]
  simp only [← readBool_eq_error_iff false]
  apply step_bind_eq_error_iff
  intro insecure _
  rw [readBool_eq_error_iff, readBool_eq_error_iff]

/-- The settings that the environment asks for, but for whether connections may be insecure. -/
def readOthers (env : Environment) (insecure : Bool) : Except SettingsError Settings := do
  let timeout ← readFloat env "MAESTRO_HTTP_TIMEOUT_SECONDS" 30
  let retries ← readInt env "MAESTRO_HTTP_MAX_RETRIES" 3
  let interval ← readFloat env "MAESTRO_POLL_INTERVAL_SECONDS" 1
  let waitTimeout ← readFloat env "MAESTRO_WAIT_TIMEOUT_SECONDS" 300
  let cap ← readFloat env "MAESTRO_BACKOFF_CAP_SECONDS" 300
  return {
    connection :=
      ⟨readText env "MAESTRO_HTTP_ENDPOINT" defaultEndpoint, insecure, timeout, retries⟩
    polling := ⟨interval, waitTimeout, cap⟩
    format := readWord env "MAESTRO_CLI_OUTPUT" "yaml"
    results := pathSetting (env.get? resultsVariable)
    logLevel := readWord env "MAESTRO_CLI_LOG_LEVEL" "info" }

def settle (flags : Overrides) (read : Settings) : Except SettingsError Settings := do
  let settings := read.override flags
  settings.validate
  return settings

theorem load_eq (env : Environment) (flags : Overrides) :
    load env flags =
      readInsecure env >>= fun insecure => readOthers env insecure >>= settle flags := by
  unfold load ofEnvironment readInsecure
  rw [bind_assoc, bind_assoc]
  apply bind_congr
  intro insecure
  rw [bind_assoc]
  rfl

/-! The variables that no flag stands in for have the same effect in both environments, and so have
the flags in place of the others. -/

theorem readFloat_congr {default : Float} (h : first.get? name = second.get? name) :
    readFloat first name default = readFloat second name default := by
  unfold readFloat
  rw [h]

theorem readInt_congr {default : Int} (h : first.get? name = second.get? name) :
    readInt first name default = readInt second name default := by
  unfold readInt
  rw [h]

theorem readText_congr {default : String} (h : first.get? name = second.get? name) :
    readText first name default = readText second name default := by
  unfold readText
  rw [h]

theorem readWord_congr {default : String} (h : first.get? name = second.get? name) :
    readWord first name default = readWord second name default := by
  unfold readWord
  rw [h]

/-- The settings only differ in what flags stand over. -/
structure Covered (flags : Overrides) (a b : Settings) : Prop where
  polling : a.polling = b.polling
  timeout : a.connection.timeout = b.connection.timeout
  retries : a.connection.retries = b.connection.retries
  insecure : flags.insecure = none → a.connection.insecure = b.connection.insecure
  endpoint : ¬ flags.endpoint.any (!·.isEmpty) → a.connection.endpoint = b.connection.endpoint
  format : ¬ flags.format.any (!·.isEmpty) → a.format = b.format
  results : flags.results = none → a.results = b.results
  logLevel : ¬ flags.verbose → a.logLevel = b.logLevel

theorem Covered.override_eq {a b : Settings} (h : Covered flags a b) :
    a.override flags = b.override flags := by
  obtain ⟨⟨endpoint, insecure, timeout, retries⟩, polling, format, results, level⟩ := a
  obtain ⟨⟨endpoint', insecure', timeout', retries'⟩, polling', format', results', level'⟩ := b
  obtain ⟨hpolling, htimeout, hretries, hinsecure, hendpoint, hformat, hresults, hlevel⟩ := h
  dsimp only at *
  simp only [override, Settings.mk.injEq, Connection.mk.injEq]
  refine ⟨⟨?_, ?_, htimeout, hretries⟩, hpolling, ?_, ?_, ?_⟩
  · cases hflag : flags.endpoint with
    | none => exact hendpoint (by simp [hflag])
    | some own =>
      dsimp only
      split
      · exact hendpoint (by simp_all)
      · rfl
  · cases hflag : flags.insecure with
    | none => exact hinsecure hflag
    | some own => rfl
  · cases hflag : flags.format with
    | none => exact hformat (by simp [hflag])
    | some own =>
      dsimp only
      split
      · exact hformat (by simp_all)
      · rfl
  · cases hflag : flags.results with
    | none => exact hresults hflag
    | some own => rfl
  · split
    · rfl
    · exact hlevel ‹_›

theorem Covered.settle_eq {a b : Settings} (h : Covered flags a b) :
    settle flags a = settle flags b := by
  unfold settle
  rw [h.override_eq]

theorem settle_readOthers_congr (h : flags.Hides first second) {insecure insecure' : Bool}
    (hinsecure : flags.insecure = none → insecure = insecure') :
    (readOthers first insecure >>= settle flags) =
      (readOthers second insecure' >>= settle flags) := by
  -- The five numbers are under no flag, so their variables are the same in both environments.
  have hkept : ∀ name ∈ ["MAESTRO_HTTP_TIMEOUT_SECONDS", "MAESTRO_HTTP_MAX_RETRIES",
      "MAESTRO_POLL_INTERVAL_SECONDS", "MAESTRO_WAIT_TIMEOUT_SECONDS",
      "MAESTRO_BACKOFF_CAP_SECONDS"], first.get? name = second.get? name := by
    intro name hname
    apply h
    rw [Overrides.mem_replaced_iff]
    simp only [List.mem_cons, List.not_mem_nil, or_false] at hname
    rcases hname with rfl | rfl | rfl | rfl | rfl <;> simp [resultsVariable]
  unfold readOthers
  simp only [bind_assoc, pure_bind]
  rw [readFloat_congr (hkept "MAESTRO_HTTP_TIMEOUT_SECONDS" (by simp)),
    readInt_congr (hkept "MAESTRO_HTTP_MAX_RETRIES" (by simp)),
    readFloat_congr (hkept "MAESTRO_POLL_INTERVAL_SECONDS" (by simp)),
    readFloat_congr (hkept "MAESTRO_WAIT_TIMEOUT_SECONDS" (by simp)),
    readFloat_congr (hkept "MAESTRO_BACKOFF_CAP_SECONDS" (by simp))]
  refine bind_congr fun timeout => bind_congr fun retries => bind_congr fun interval =>
    bind_congr fun waitTimeout => bind_congr fun cap => ?_
  apply Covered.settle_eq
  constructor
  all_goals dsimp only
  case insecure => exact hinsecure
  case endpoint =>
    intro hflag
    apply readText_congr
    apply h
    simp [Overrides.mem_replaced_iff, resultsVariable, hflag]
  case format =>
    intro hflag
    apply readWord_congr
    apply h
    simp [Overrides.mem_replaced_iff, resultsVariable, hflag]
  case results =>
    intro hflag
    rw [h resultsVariable]
    simp [Overrides.mem_replaced_iff, resultsVariable, hflag]
  case logLevel =>
    intro hflag
    apply readWord_congr
    apply h
    simp [Overrides.mem_replaced_iff, resultsVariable, hflag]

/-! Only the variables about insecure connections can be unclear. -/

section Decided

variable {α β : Type}

/-- A failure has another reason than a text that stands neither for true nor for false. -/
def Decided (x : Except SettingsError α) : Prop :=
  ∀ name text, x ≠ .error (.notBoolean name text)

theorem Decided.bind {x : Except SettingsError α} {f : α → Except SettingsError β}
    (hx : Decided x) (hf : ∀ a, Decided (f a)) : Decided (x >>= f) := by
  intro name text h
  rcases bind_eq_error_iff.mp h with h | ⟨a, -, h⟩
  · exact hx name text h
  · exact hf a name text h

theorem decided_ok (a : α) : Decided (.ok a) := nofun

theorem decided_error {error : SettingsError} (h : ∀ name text, error ≠ .notBoolean name text) :
    Decided (.error error : Except SettingsError α) := by
  rintro name text ⟨⟩
  exact h name text rfl

theorem decided_readFloat {default : Float} : Decided (readFloat env name default) := by
  unfold readFloat
  split
  · exact decided_ok _
  · split
    · exact decided_ok _
    · exact decided_error (by simp)

theorem decided_readInt {default : Int} : Decided (readInt env name default) := by
  unfold readInt
  split
  · exact decided_ok _
  · split
    · exact decided_ok _
    · exact decided_error (by simp)

theorem decided_require {condition : Bool} {error : SettingsError}
    (h : ∀ name text, error ≠ .notBoolean name text) : Decided (require condition error) := by
  unfold require
  split
  · exact decided_ok _
  · exact decided_error h

theorem decided_requirePositive {value : Float} : Decided (requirePositive name value) :=
  decided_require (by simp)

theorem decided_validate (settings : Settings) : Decided settings.validate := by
  have hendpoint : Decided ((Endpoint.check settings.connection.endpoint).mapError .endpoint) := by
    intro name text h
    obtain ⟨cause, -, hcause⟩ := mapError_eq_error_iff.mp h
    cases hcause
  refine hendpoint.bind fun _ => (decided_require (by simp)).bind fun _ =>
    (decided_require (by simp)).bind fun _ => decided_requirePositive.bind fun _ =>
    decided_requirePositive.bind fun _ => decided_requirePositive.bind fun _ =>
    (decided_require (by simp)).bind fun _ => (decided_require (by simp)).bind fun _ =>
    decided_require (by simp)

theorem decided_settle_readOthers (insecure : Bool) :
    Decided (readOthers env insecure >>= settle flags) := by
  apply Decided.bind
  · exact decided_readFloat.bind fun _ => decided_readInt.bind fun _ => decided_readFloat.bind
      fun _ => decided_readFloat.bind fun _ => decided_readFloat.bind fun _ => decided_ok _
  · intro read
    exact (decided_validate _).bind fun _ => decided_ok _

end Decided

theorem load_of_readInsecure_error {error : SettingsError} (h : readInsecure env = .error error) :
    load env flags = .error error := by
  rw [load_eq, h]
  rfl

theorem unclear_of_load_eq (hload : load first flags = load second flags) {error : SettingsError}
    (h : First (Unclear first) insecureVariables error) :
    First (Unclear second) insecureVariables error := by
  have hfails : load second flags = .error error := by
    rw [← hload]
    exact load_of_readInsecure_error (readInsecure_eq_error_iff.mpr h)
  obtain ⟨name, -, text, -, -, rfl⟩ := h.exists_mem
  rw [load_eq] at hfails
  rcases bind_eq_error_iff.mp hfails with hfails | ⟨insecure, -, hfails⟩
  · exact readInsecure_eq_error_iff.mp hfails
  · exact absurd hfails (decided_settle_readOthers insecure name text)

theorem readInsecure_congr (h : flags.Hides first second) (hflag : flags.insecure = none) :
    readInsecure first = readInsecure second := by
  have hkept : ∀ name ∈ insecureVariables, first.get? name = second.get? name := by
    intro name hname
    apply h
    rw [Overrides.mem_replaced_iff]
    simp only [insecureVariables, List.mem_cons, List.not_mem_nil, or_false] at hname
    rcases hname with rfl | rfl <;> simp [resultsVariable, hflag]
  unfold readInsecure readBool
  rw [hkept "MAESTRO_GRPC_INSECURE" (by simp [insecureVariables]),
    hkept "MAESTRO_INSECURE" (by simp [insecureVariables])]

theorem load_of_hides (h : flags.Hides first second)
    (hsame : ∀ error, First (Unclear first) insecureVariables error ↔
      First (Unclear second) insecureVariables error) :
    load first flags = load second flags := by
  simp only [← readInsecure_eq_error_iff] at hsame
  rw [load_eq, load_eq]
  cases hfirst : readInsecure first with
  | error error =>
    rw [(hsame error).mp hfirst]
    rfl
  | ok insecure =>
    cases hsecond : readInsecure second with
    | error error =>
      rw [(hsame error).mpr hsecond] at hfirst
      cases hfirst
    | ok insecure' =>
      apply settle_readOthers_congr h
      intro hflag
      rw [readInsecure_congr h hflag, hsecond] at hfirst
      cases hfirst
      rfl

/-- Environments that only differ in what flags stand in for give the same settings, or the same
error, exactly when reading whether connections may be insecure fails for the same text or for none.
This is so for every two such environments unless the flag about it is given. -/
theorem load_eq_iff_of_hides (h : flags.Hides first second) :
    (load first flags = load second flags ↔
      ∀ error, First (Unclear first) insecureVariables error ↔
        First (Unclear second) insecureVariables error) ∧
    (flags.insecure = none → load first flags = load second flags) := by
  constructor
  · constructor
    · intro hload error
      exact ⟨unclear_of_load_eq hload, unclear_of_load_eq hload.symm⟩
    · exact load_of_hides h
  · intro hflag
    apply load_of_hides h
    intro error
    rw [← readInsecure_eq_error_iff, ← readInsecure_eq_error_iff, readInsecure_congr h hflag]

/-- All flags are given, over values that could not be used but for the one about insecure
connections. -/
theorem load_eq_iff_of_hides_all :
    let flags : Overrides :=
      ⟨some "http://h", some false, some "json", some (Path.parse "results"), true⟩
    let env : Environment := [("MAESTRO_HTTP_ENDPOINT", "ftp://h"), ("MAESTRO_INSECURE", " On"),
      ("MAESTRO_CLI_OUTPUT", "xml"), ("RESULTS_PATH", "/tmp"), ("MAESTRO_CLI_LOG_LEVEL", "loud")]
    flags.Hides env [] ∧ load env flags = load [] flags := by
  intro flags env
  have hhides : flags.Hides env [] := Overrides.hides_nil (by decide)
  have hread : readInsecure env = .ok true := by rfl
  refine ⟨hhides, (load_eq_iff_of_hides hhides).1.mpr fun error => ?_⟩
  rw [← readInsecure_eq_error_iff, ← readInsecure_eq_error_iff, hread]
  exact ⟨nofun, nofun⟩

/-- The flag about insecure connections does not stand in for a variable that is unclear. -/
theorem load_of_unclear :
    let flags : Overrides := ⟨none, some true, none, none, false⟩
    let env : Environment := [("MAESTRO_INSECURE", "maybe")]
    flags.Hides env [] ∧ (∃ settings, load [] flags = .ok settings) ∧
      load env flags = .error (.notBoolean "MAESTRO_INSECURE" "maybe") := by
  intro flags env
  have hloads : (load [] flags).isOk := by decide +kernel
  refine ⟨Overrides.hides_nil (by decide), ?_, load_of_readInsecure_error rfl⟩
  cases hload : load [] flags with
  | error error =>
    rw [hload] at hloads
    cases hloads
  | ok settings => exact ⟨settings, rfl⟩

end Settings

end WorkWatch
