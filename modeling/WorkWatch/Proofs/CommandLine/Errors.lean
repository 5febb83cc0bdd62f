import WorkWatch.Proofs.CommandLine.Course

/-! How command lines end badly. The error is one of usage, or it is reported with its text, or it
escapes for one of the causes for which an error of a command is not reported. -/

namespace WorkWatch

open CommandLine

namespace CommandLine

/-! Of the flags only a path with a null character makes for an error that is not one of usage. -/

/-- A reader of flags fails for their usage, or for a null character in a path. -/
def Reads {α : Type} (result : Except FlagError α) : Prop :=
  ∀ error, result = .error (.path error) → error = .nullCharacter

theorem Reads.bind {α β : Type} {result : Except FlagError α} (h : Reads result)
    {f : α → Except FlagError β} (hf : ∀ a, Reads (f a)) : Reads (result >>= f) := by
  cases result with
  | error problem =>
    intro error herror
    cases herror
    exact h error rfl
  | ok a => exact hf a

variable {arguments : List String} {session : Session}

/-- A work has been deleted, and the document about it cannot be written. -/
inductive Unwritten (command : Command) (flags : Overrides) (session : Session) : FileError → Prop
  | intro {deletion : Deletion} {waits : Bool} {timeout : Option Float} {time : Time.Timestamp}
      {error : FileError}
      (deletes : command = .delete deletion.name deletion.consumer waits false timeout)
      (erased : deletion.Sent flags session)
      (refused : (Outcome.deleted deletion.name deletion.consumer time).write
        deletion.settings.results (session.environment.get? Settings.resultsVariable)
        session.folder = .error error) :
      Unwritten command flags session error

/-- Why a command line that has sent some requests ends with an error that is not reported: a path
holds a null character, a command has failed in a way that escapes, or the work has been deleted and
the document about it cannot be written. -/
inductive Escapes (arguments : List String) (session : Session) (sent : List Request) :
    Fatal → Prop
  | path (parsed : parse session.folder arguments = .error (.path .nullCharacter)) :
      Escapes arguments session sent
        (.escaped FileError.nullCharacter.kind FileError.nullCharacter.message)
  | command {flags : Overrides} {command : Command} {error : CommandError}
      (parsed : parse session.folder arguments = .ok (.command flags command))
      (escapes : command.Escapes flags session.environment (session.network.server.replies sent)
        error) :
      Escapes arguments session sent (fatalError error)
  | file {flags : Overrides} {command : Command} {error : FileError}
      (parsed : parse session.folder arguments = .ok (.command flags command))
      (unwritten : Unwritten command flags session error) (reason : error ≠ .nullCharacter) :
      Escapes arguments session sent (.escaped error.kind error.message)

end CommandLine

end WorkWatch
