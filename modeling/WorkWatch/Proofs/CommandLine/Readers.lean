import WorkWatch.Proofs.CommandLine.Reading
import WorkWatch.Proofs.CommandLine.Wait

/-! The five commands that only read. The waits among them fail by what is replied to their last
searches. -/

namespace WorkWatch

open Run

namespace Step

variable {command : Command} {flags : Overrides} {scope : Trace.Scope} {session : Session}
  {settings : Settings} {client : Client}

end Step

/-- The documents that a command writes about its polls. Only the wait command writes any. -/
inductive Command.Polls : Command → String → Prop
  | intro {name consumer condition : String} {timeout interval : Option Float}
      {time : Time.Timestamp} {snapshot : Snapshot} {met : Bool}
      (evaluated : snapshot.evaluate condition = .ok met) :
      Polls (.wait name consumer condition timeout interval)
        (Outcome.ofPoll name consumer condition time snapshot met).text

/-- A command that only reads may print any lines. -/
def Command.scope (command : Command) : Trace.Scope := ⟨fun _ => True, command.Polls⟩

namespace CommandLine

variable {flags : Overrides} {session : Session}

end CommandLine

end WorkWatch
