import WorkWatch.CommandLine.Session
import WorkWatch.Proofs.Client.Traffic
import WorkWatch.Proofs.Wait.Ending

/-! The steps of a command: what is known when one succeeds, and what it does to the network. -/

namespace WorkWatch

namespace Session

theorem network_foldl_spend (delays : List Float) : ∀ session : Session,
    (delays.foldl (fun session delay => session.spend delay) session).network =
      session.network := by
  induction delays with
  | nil => exact fun _ => rfl
  | cons delay delays ih => exact fun session => ih (session.spend delay)

theorem exchange_fst {α : Type} (requests : Exchange α) (session : Session) :
    (session.exchange requests).1 = (requests session.network).1 := rfl

theorem network_exchange {α : Type} (requests : Exchange α) (session : Session) :
    (session.exchange requests).2.network =
      { (requests session.network).2 with delays := [] } :=
  network_foldl_spend _ _

def clock (session : Session) : Clock Float := ⟨session.now, session.alarms, .none⟩

variable (source : Source Float Session) (settings : PollSettings Float) (goal : Goal)
  (polls : Nat) (session : Session)

theorem waitFor_ending :
    (session.waitFor source settings goal polls).1 =
      (WorkWatch.waitFor source settings goal session.clock session polls).1 := rfl

theorem waitFor_network :
    (session.waitFor source settings goal polls).2.network =
      (WorkWatch.waitFor source settings goal session.clock session
        polls).2.surroundings.network := rfl

end Session

namespace Step

variable {session last : Session}

theorem get_eq_ok {found : Session} (h : (get : Step Session) session = (.ok found, last)) :
    session = found ∧ session = last := by
  cases h
  exact ⟨rfl, rfl⟩

theorem settings_eq_ok {α : Type} {result : Except SettingsError α} {value : α}
    (h : settings result session = (.ok value, last)) : result = .ok value ∧ session = last := by
  cases result with
  | error error => cases h
  | ok found =>
    cases h
    exact ⟨rfl, rfl⟩

theorem connect_eq_ok {connection : Connection} {client : Client}
    (h : connect connection session = (.ok client, last)) :
    Client.connect connection.endpoint connection.timeout = .ok client ∧
      last.network = session.network := by
  unfold connect at h
  cases hclient : Client.connect connection.endpoint connection.timeout with
  | error error =>
    rw [hclient] at h
    cases h
  | ok found =>
    rw [hclient] at h
    obtain ⟨hfound, hlast⟩ := Prod.mk.inj h
    cases hfound
    refine ⟨rfl, ?_⟩
    rw [← hlast]
    cases connection.insecure <;> rfl

/-- Requests that succeed leave the network as they do, but for the time that has gone by. -/
theorem exchange_eq_ok {α : Type} {requests : Exchange α} {value : α}
    (h : exchange requests session = (.ok value, last)) :
    ∃ network, requests session.network = (.ok value, network) ∧
      last.network = { network with delays := [] } := by
  unfold exchange at h
  have hfst := session.exchange_fst requests
  have hnetwork := session.network_exchange requests
  cases hresult : session.exchange requests with
  | mk result later =>
    rw [hresult] at h hfst hnetwork
    cases result with
    | error failure => cases h
    | ok found =>
      cases h
      exact ⟨_, Prod.ext hfst.symm rfl, hnetwork⟩

theorem record_eq_ok {entry : LogEntry} (h : record entry session = (.ok (), last)) :
    last.network = session.network := by
  cases h
  rfl

theorem waitFor_eq_ok {source : Source Float Session} {settings : PollSettings Float} {goal : Goal}
    {polls : Nat} {outcome : WaitOutcome Float}
    (h : waitFor source settings goal polls session = (.ok outcome, last)) :
    (WorkWatch.waitFor source settings goal session.clock session polls).1 = .outcome outcome ∧
      last = (session.waitFor source settings goal polls).2 := by
  unfold waitFor at h
  rw [← Session.waitFor_ending]
  cases hended : session.waitFor source settings goal polls with
  | mk ending later =>
    rw [hended] at h
    cases ending with
    | outcome told =>
      cases h
      exact ⟨rfl, rfl⟩
    | raised fault => cases h
    | unfinished => cases h

end Step

end WorkWatch
