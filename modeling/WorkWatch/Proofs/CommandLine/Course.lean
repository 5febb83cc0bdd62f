import WorkWatch.Proofs.CommandLine.Erasure
import WorkWatch.Proofs.Text.Control
import WorkWatch.Recording

/-! The course of a whole command line. A deletion is asked for at most once, by a delete command that
has found the work twice, and what is printed and written of a deletion is warranted by it. -/

namespace WorkWatch

namespace CommandLine

/-- A command before its lines are printed. -/
def produce (polls : Nat) (flags : Overrides) : Command → Step (List String)
  | .wait name consumer condition timeout interval =>
    runWait polls flags name consumer condition timeout interval
  | .get name consumer => runGet flags name consumer
  | .describe name consumer => runDescribe flags name consumer
  | .list consumer pattern => runList flags consumer pattern
  | .delete name consumer waits dryRun timeout =>
    runDelete polls flags name consumer waits dryRun timeout
  | .watch name consumer condition timeout interval =>
    runWatch polls flags name consumer condition timeout interval

theorem runCommand_eq (polls : Nat) (flags : Overrides) (command : Command) :
    runCommand polls flags command = (do
      let lines ← produce polls flags command
      lines.forM Step.print) := by
  cases command <;> rfl

theorem performs_print (line : String) (session : Session) :
    session.Performs (session.print line) ⟨[], [Text.withoutControl line], []⟩ :=
  ⟨.refl _, rfl, rfl, rfl⟩

theorem print_performs (lines : List String) (session : Session) : ∃ last,
    lines.forM Step.print session = (.ok (), last) ∧
      session.Performs last ⟨[], lines.map Text.withoutControl, []⟩ := by
  induction lines generalizing session with
  | nil => exact ⟨session, rfl, .refl session⟩
  | cons line lines ih =>
    obtain ⟨last, hprints, hperforms⟩ := ih (session.print line)
    have hprint : Step.print line session = (.ok (), session.print line) := rfl
    refine ⟨last, ?_, (performs_print line session).trans hperforms⟩
    change (Step.print line >>= fun _ => lines.forM Step.print : Step PUnit) session = _
    rw [bind_of_ok hprint, hprints]

variable {polls : Nat} {flags : Overrides} {command : Command} {session : Session}

variable {deletion : Deletion} {polled : List Request}

/-- The lines of a command as they are printed. -/
def printed : Except CommandError (List String) → List String
  | .ok lines => lines.map Text.withoutControl
  | .error _ => []

theorem run_of_command {arguments : List String}
    (h : parse session.folder arguments = .ok (.command flags command)) :
    run polls arguments session =
      (match (produce polls flags command session).1 with
        | .ok _ => none
        | .error error => some (fatalError error),
      (runCommand polls flags command session).2) := by
  unfold run
  rw [h]
  dsimp only
  rw [runCommand_eq, bind_apply]
  cases hproduced : produce polls flags command session with
  | mk result last =>
    cases result with
    | error error => rfl
    | ok lines =>
      obtain ⟨shown, hprints, -⟩ := print_performs lines last
      dsimp only
      rw [hprints]

end CommandLine

end WorkWatch
