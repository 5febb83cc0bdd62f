import WorkWatch.Proofs.CommandLine.Course
import WorkWatch.Proofs.Settings.Duration

/-! Configuration errors. A command line that cannot be read changes nothing, and the settings are
loaded before anything is sent. The durations that a command line gives are finite and above zero, so
that the settings for polling are accepted wherever a command makes them, also after a deletion. -/

namespace WorkWatch

theorem Settings.pollSettings_of_isDuration (settings : Settings) {timeout interval : Option Float}
    (htimeout : ∀ own, timeout = some own → IsDuration own)
    (hinterval : ∀ own, interval = some own → IsDuration own) :
    ∃ polling, settings.pollSettings timeout interval = .ok polling :=
  ⟨_, pollSettings_eq_ok_iff.mpr ⟨hinterval, htimeout, rfl⟩⟩

/-- The timeout that a command is given. -/
def Command.timeout : Command → Option Float
  | .wait _ _ _ timeout _ | .delete _ _ _ _ timeout | .watch _ _ _ timeout _ => timeout
  | _ => none

/-- The interval at which a command is told to poll. -/
def Command.interval : Command → Option Float
  | .wait _ _ _ _ interval | .watch _ _ _ _ interval => interval
  | _ => none

/-- The durations of a command are finite and above zero. -/
structure Command.Timed (command : Command) : Prop where
  timeout : ∀ own, command.timeout = some own → IsDuration own
  interval : ∀ own, command.interval = some own → IsDuration own

namespace CommandLine

variable {folder : Folder} {arguments : List String} {flags : Overrides} {command : Command}

theorem isDuration_durationOf {spec : OptionSpec} {given : List Given} {seconds : Float}
    (h : durationOf spec given = some seconds) : IsDuration seconds := by
  obtain ⟨text, -, hread⟩ := Option.bind_eq_some_iff.mp h
  cases hparse : Duration.parse text with
  | error error =>
    rw [hparse] at hread
    cases hread
  | ok read =>
    rw [hparse] at hread
    cases hread
    exact Duration.isDuration_of_parse hparse

theorem Verb.timed_command (verb : Verb) (given : List Given) : (verb.command given).Timed := by
  cases verb with
  | wait | watch => exact ⟨fun _ => isDuration_durationOf, fun _ => isDuration_durationOf⟩
  | delete => exact ⟨fun _ => isDuration_durationOf, nofun⟩
  | get | describe | list => exact ⟨nofun, nofun⟩

theorem Verb.timed_of_parse {verb : Verb} (h : verb.parse arguments = .ok (some command)) :
    command.Timed := by
  obtain ⟨⟨given, others⟩, -, h⟩ := bind_eq_ok_iff.mp h
  dsimp only at h
  split at h
  · cases h
  · obtain ⟨-, h⟩ := check_bind_eq_ok_iff.mp h
    split at h
    · cases h
    · cases h
      exact verb.timed_command given

/-- Flags by themselves ask for no command. -/
theorem readFlags_ne_command {invocation : Invocation}
    (h : readFlags folder arguments = .ok (.inl invocation)) :
    invocation ≠ .command flags command := by
  obtain ⟨⟨given, others⟩, -, h⟩ := bind_eq_ok_iff.mp h
  dsimp only at h
  split at h
  · cases h
    split <;> exact nofun
  · obtain ⟨-, h⟩ := check_bind_eq_ok_iff.mp h
    cases h

theorem unknownVerb_ne_command {name : String} :
    unknownVerb folder name arguments ≠ .ok (.command flags command) := by
  intro h
  unfold unknownVerb at h
  split at h
  · obtain ⟨read, hread, h⟩ := bind_eq_ok_iff.mp h
    split at h
    · cases h
      exact readFlags_ne_command hread rfl
    · cases h
  · cases h

/-- The durations of a command line are finite and above zero. -/
theorem timed_of_parse (h : parse folder arguments = .ok (.command flags command)) :
    command.Timed := by
  unfold parse at h
  split at h
  · cases h
  · obtain ⟨read, hread, h⟩ := bind_eq_ok_iff.mp h
    split at h
    · cases h
      exact absurd rfl (readFlags_ne_command hread)
    · cases h
    · split at h
      · exact absurd h unknownVerb_ne_command
      · obtain ⟨found, hfound, h⟩ := bind_eq_ok_iff.mp h
        split at h
        · cases h
          exact Verb.timed_of_parse (mapError_eq_ok_iff.mp hfound)
        · cases h

end CommandLine

namespace Step

variable {α β : Type}

/-- However a step ends, its settings are not the reason. -/
def Configured (x : Step α) : Prop := ∀ session error, (x session).1 ≠ .error (.settings error)

theorem Configured.bind {x : Step α} {f : α → Step β} (hx : x.Configured)
    (hf : ∀ a, (f a).Configured) : Configured (x >>= f) := by
  intro session error h
  rw [bind_apply] at h
  rcases hresult : x session with ⟨problem | a, later⟩
  · rw [hresult] at h
    cases h
    exact hx session error (congrArg Prod.fst hresult)
  · rw [hresult] at h
    exact hf a later error h

theorem configured_pure (a : α) : Configured (pure a) := by
  intro session error h
  cases h

theorem configured_throw {error : CommandError} (h : ∀ cause, error ≠ .settings cause) :
    Configured (throw error : Step α) := by
  intro session cause hthrown
  cases hthrown
  exact h cause rfl

theorem configured_settings {result : Except SettingsError α} {value : α}
    (h : result = .ok value) : (settings result).Configured := by
  rw [h]
  exact configured_pure value

theorem configured_record (entry : LogEntry) : (record entry).Configured := by
  intro session error h
  cases h

theorem configured_exchange (requests : Exchange α) : (exchange requests).Configured := by
  intro session error h
  obtain ⟨failure, -, hfailure⟩ := mapError_eq_error_iff.mp h
  cases hfailure

theorem configured_connect (connection : Connection) : (connect connection).Configured := by
  intro session error h
  obtain ⟨problem, -, hproblem⟩ := mapError_eq_error_iff.mp h
  cases hproblem

theorem configured_waitFor (source : Source Float Session) (polling : PollSettings Float)
    (goal : Goal) (polls : Nat) : (waitFor source polling goal polls).Configured := by
  intro session error h
  unfold waitFor at h
  split at h <;> cases h

variable {session : Session} {flags : Overrides}

theorem load_of_error {error : SettingsError} (f : Settings → Step α)
    (h : Settings.load session.environment flags = .error error) :
    (do let loaded ← Step.settings (Settings.load (← get).environment flags); f loaded : Step α)
      session = (.error (.settings error), session) := by
  change (Step.settings (Settings.load session.environment flags) >>= f : Step α) session = _
  rw [h]
  rfl

theorem load_configured {loaded : Settings} {f : Settings → Step α}
    (h : Settings.load session.environment flags = .ok loaded) (hf : (f loaded).Configured)
    (error : SettingsError) :
    ((do let loaded ← Step.settings (Settings.load (← get).environment flags); f loaded : Step α)
      session).1 ≠ .error (.settings error) := by
  change ((Step.settings (Settings.load session.environment flags) >>= f : Step α) session).1 ≠ _
  rw [h]
  exact hf session error

/-- A command connects and asks for its consumer before it does anything else. -/
theorem configured_opening {connection : Connection} {consumer : String} {f : Client → Step α}
    (hf : ∀ client, (f client).Configured) :
    Configured (do
      let client ← connect connection
      exchange (client.validateConsumer consumer)
      f client) := by
  apply (configured_connect _).bind
  intro client
  apply (configured_exchange _).bind
  intro _
  exact hf client

end Step

namespace CommandLine

open Step

variable {polls : Nat} {flags : Overrides} {command : Command} {session : Session}
  {settings : Settings} {client : Client} {name consumer : String} {timeout interval : Option Float}

theorem configured_findWork : (findWork client consumer name).Configured := by
  intro session error h
  unfold findWork at h
  split at h <;> cases h

theorem configured_writeDeleted (path : Option Path) :
    (writeDeleted path name consumer).Configured := by
  intro session error h
  unfold writeDeleted at h
  dsimp only at h
  split at h <;> cases h

theorem configured_awaitDeletion (h : ∀ own, timeout = some own → IsDuration own) :
    (awaitDeletion polls client settings name consumer timeout).Configured := by
  have hinterval : ∀ own, (none : Option Float) = some own → IsDuration own := nofun
  obtain ⟨polling, hpolling⟩ := settings.pollSettings_of_isDuration h hinterval
  apply (configured_settings hpolling).bind
  intro polling
  apply (configured_waitFor _ _ _ _).bind
  intro outcome
  split
  · exact configured_pure _
  · exact configured_throw nofun

theorem configured_conclude {waits : Bool} (h : ∀ own, timeout = some own → IsDuration own) :
    (conclude polls client settings name consumer waits timeout).Configured := by
  have hrest : Configured (do
      writeDeleted settings.results name consumer
      return ["ManifestWork " ++ name ++ " deleted"] : Step (List String)) :=
    (configured_writeDeleted _).bind fun _ => configured_pure _
  unfold conclude
  split
  · exact (configured_awaitDeletion h).bind fun _ => hrest
  · exact hrest

theorem configured_seek {waits dryRun : Bool} (h : ∀ own, timeout = some own → IsDuration own) :
    (seek polls client settings name consumer waits dryRun timeout).Configured := by
  apply configured_findWork.bind
  intro found
  cases found with
  | none => exact (configured_record _).bind fun _ => configured_pure _
  | some work =>
    dsimp only
    split
    · exact configured_pure _
    · apply (configured_record _).bind
      intro _
      exact (configured_exchange _).bind fun _ => configured_conclude h

theorem produce_of_load_error {error : SettingsError}
    (h : Settings.load session.environment flags = .error error) :
    produce polls flags command session = (.error (.settings error), session) := by
  cases command <;> exact load_of_error _ h

/-- Once its settings are loaded, a command with proper durations does not fail for its settings. -/
theorem produce_configured (htimed : command.Timed)
    (h : Settings.load session.environment flags = .ok settings) :
    ∀ error, (produce polls flags command session).1 ≠ .error (.settings error) := by
  -- Only loading the settings and making poll settings of them can fail in this way; every other
  -- step of every command has errors of its own.
  cases command with
  | wait name consumer condition timeout interval =>
    obtain ⟨polling, hpolling⟩ := settings.pollSettings_of_isDuration htimed.timeout htimed.interval
    apply load_configured h
    apply (configured_settings hpolling).bind
    intro polling
    apply configured_opening
    intro client
    apply (configured_exchange _).bind
    intro _
    apply (configured_record _).bind
    intro _
    apply (configured_waitFor _ _ _ _).bind
    intro outcome
    split
    · exact configured_pure _
    · exact configured_throw nofun
  | get name consumer =>
    apply load_configured h
    apply configured_opening
    intro client
    exact (configured_exchange _).bind fun _ => configured_pure _
  | describe name consumer =>
    apply load_configured h
    apply configured_opening
    intro client
    apply (configured_exchange _).bind
    intro snapshot
    split <;> exact configured_pure _
  | list consumer pattern =>
    apply load_configured h
    apply configured_opening
    intro client
    apply (configured_exchange _).bind
    intro works
    dsimp only
    split <;> exact configured_pure _
  | delete name consumer waits dryRun timeout =>
    apply load_configured h
    apply configured_opening
    intro client
    exact configured_seek htimed.timeout
  | watch name consumer condition timeout interval =>
    have htimeout : ∀ own, (none : Option Float) = some own → IsDuration own := nofun
    obtain ⟨polling, hpolling⟩ := settings.pollSettings_of_isDuration htimeout htimed.interval
    apply load_configured h
    apply (configured_settings hpolling).bind
    intro polling
    apply configured_opening
    intro client
    exact (configured_waitFor _ _ _ _).bind fun _ => configured_pure _

/-- A command fails for its settings before its lines are printed. -/
theorem runCommand_settings_iff {error : SettingsError} :
    (runCommand polls flags command session).1 = .error (.settings error) ↔
      (produce polls flags command session).1 = .error (.settings error) := by
  rw [runCommand_eq, bind_apply]
  rcases produce polls flags command session with ⟨problem | lines, last⟩
  · constructor
    · rintro ⟨⟩
      rfl
    · rintro ⟨⟩
      rfl
  · obtain ⟨printed, hprints, -⟩ := print_performs lines last
    dsimp only
    rw [hprints]
    exact ⟨nofun, nofun⟩

/-- A command line that cannot be read, or whose settings cannot be used, leaves the session as it
was: nothing has been sent. A command only fails for its settings if these cannot be loaded, so that
the settings for polling of a delete command are always accepted. -/
theorem run_misconfigured (polls : Nat) (arguments : List String) (session : Session) :
    (∀ error, parse session.folder arguments = .error error →
      (run polls arguments session).2 = session) ∧
    ∀ flags command, parse session.folder arguments = .ok (.command flags command) →
      (∀ error, Settings.load session.environment flags = .error error →
        run polls arguments session = (some (.reported error.message), session)) ∧
      (∀ error, (runCommand polls flags command session).1 = .error (.settings error) →
        Settings.load session.environment flags = .error error ∧
          (run polls arguments session).2 = session) ∧
      ∀ settings, Settings.load session.environment flags = .ok settings →
        ∀ name consumer waits dryRun timeout,
          command = .delete name consumer waits dryRun timeout →
          ∃ polling, settings.pollSettings timeout none = .ok polling := by
  have hload {flags : Overrides} {command : Command}
      (hparse : parse session.folder arguments = .ok (.command flags command))
      {error : SettingsError} (h : Settings.load session.environment flags = .error error) :
      run polls arguments session = (some (.reported error.message), session) := by
    rw [run_of_command hparse, runCommand_eq, bind_apply, produce_of_load_error h]
    rfl
  constructor
  · intro error hparse
    unfold run
    rw [hparse]
    cases error <;> rfl
  · intro flags command hparse
    have htimed := timed_of_parse hparse
    refine ⟨fun error h => hload hparse h, ?_, ?_⟩
    · intro error hfails
      have hproduced := runCommand_settings_iff.mp hfails
      cases hloaded : Settings.load session.environment flags with
      | ok settings => exact absurd hproduced (produce_configured htimed hloaded error)
      | error problem =>
        rw [produce_of_load_error hloaded] at hproduced
        cases hproduced
        exact ⟨rfl, congrArg Prod.snd (hload hparse hloaded)⟩
    · rintro settings - name consumer waits dryRun timeout rfl
      exact settings.pollSettings_of_isDuration htimed.timeout htimed.interval

/-- A timeout that is no duration, and an interval of zero in the environment. -/
theorem run_misconfigured_zero :
    let session := Recording.session [("MAESTRO_POLL_INTERVAL_SECONDS", "0")] 0 (.obj [])
    let web := ["--name", "web", "--consumer", "cluster1"]
    (∃ error, parse session.folder ("delete" :: "--timeout" :: "soon" :: web) = .error error ∧
      (run 5 ("delete" :: "--timeout" :: "soon" :: web) session).2 = session) ∧
    ∃ flags error,
      parse session.folder ("delete" :: "--wait" :: web) =
        .ok (.command flags (.delete "web" "cluster1" true false none)) ∧
      Settings.load session.environment flags = .error error ∧
      run 5 ("delete" :: "--wait" :: web) session = (some (.reported error.message), session) := by
  intro session web
  have hrejected : (parse session.folder ("delete" :: "--timeout" :: "soon" :: web)).isOk = false := by
    decide +kernel
  have hparse : parse session.folder ("delete" :: "--wait" :: web) =
      .ok (.command ⟨none, none, none, none, false⟩ (.delete "web" "cluster1" true false none)) := by
    rfl
  have hrefused : (Settings.load session.environment ⟨none, none, none, none, false⟩).isOk =
      false := by decide +kernel
  constructor
  · cases hread : parse session.folder ("delete" :: "--timeout" :: "soon" :: web) with
    | ok invocation =>
      rw [hread] at hrejected
      cases hrejected
    | error error => exact ⟨error, rfl, (run_misconfigured 5 _ session).1 error hread⟩
  · cases hload : Settings.load session.environment ⟨none, none, none, none, false⟩ with
    | ok settings =>
      rw [hload] at hrefused
      cases hrefused
    | error error =>
      exact ⟨_, error, hparse, hload,
        ((run_misconfigured 5 _ session).2 _ _ hparse).1 error hload⟩

end CommandLine

end WorkWatch
