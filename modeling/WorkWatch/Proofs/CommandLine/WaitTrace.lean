import WorkWatch.Proofs.CommandLine.Polling
import WorkWatch.Proofs.CommandLine.Trace

/-! The trace of a wait: its polls only ask for documents, and what it writes is written about
snapshots on which the expression has been evaluated. -/

namespace WorkWatch

namespace Session

end Session

/-- A source only asks for documents, and its sink keeps to a scope. -/
structure Source.Reads (source : Source Float Session) (goal : Goal) (scope : Trace.Scope) :
    Prop where
  acquires : ∀ session : Session, ∃ trace : Trace,
    session.Performs (source.acquire session).2 trace ∧ trace.Within scope
  hands : ∀ (expression : String) (snapshot : Snapshot) (met : Bool),
    goal = .condition expression → snapshot.evaluate expression = .ok met →
    ∀ (now : Float) (session : Session), ∃ trace : Trace,
      session.Performs (source.handOver now snapshot met session) trace ∧ trace.Within scope

namespace Run

variable {τ σ : Type} [Timescale τ]

variable {source : Source Float Session} {goal : Goal} {scope : Trace.Scope}

end Run

namespace Session

end Session

end WorkWatch
