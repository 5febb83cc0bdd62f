import WorkWatch.Proofs.CommandLine.Removal

/-! A delete command is followed from the reply to one request to the next. Whatever the replies are,
it goes one of the ways in which a delete command can go. -/

namespace WorkWatch

namespace CommandLine

variable {polls : Nat} {flags : Overrides} {name consumer : String} {waits dryRun : Bool}
  {timeout : Option Float} {session : Session}

/-- What is done once a work has been deleted. -/
def conclude (polls : Nat) (client : Client) (settings : Settings) (name consumer : String)
    (waits : Bool) (timeout : Option Float) : Step (List String) := do
  if waits then awaitDeletion polls client settings name consumer timeout
  writeDeleted settings.results name consumer
  return ["ManifestWork " ++ name ++ " deleted"]

/-- What is done once a work has been found that is to be deleted. -/
def erase (polls : Nat) (client : Client) (settings : Settings) (name consumer : String)
    (waits : Bool) (timeout : Option Float) : Step (List String) := do
  Step.record (.deleting name consumer)
  let _ ← Step.exchange (client.deleteWork consumer name)
  conclude polls client settings name consumer waits timeout

/-- What is done once a consumer is known to be registered. -/
def seek (polls : Nat) (client : Client) (settings : Settings) (name consumer : String)
    (waits dryRun : Bool) (timeout : Option Float) : Step (List String) := do
  match ← findWork client consumer name with
  | none =>
    Step.record (.nothingToDelete name consumer)
    return ["ManifestWork " ++ name ++ " not found, nothing to delete"]
  | some work =>
    if dryRun then
      return ["[DRY RUN] Would delete ManifestWork " ++ name ++ " (" ++
        Text.natText work.manifests.length ++ " manifests) from " ++ consumer]
    erase polls client settings name consumer waits timeout

theorem runDelete_eq : runDelete polls flags name consumer waits dryRun timeout = (do
    let settings ← Step.settings (Settings.load (← get).environment flags)
    let client ← Step.connect settings.connection
    Step.exchange (client.validateConsumer consumer)
    seek polls client settings name consumer waits dryRun timeout) := rfl

variable {settings : Settings} {client : Client} {deletion : Deletion} {polled : List Request}
  {later : Session}

end CommandLine

end WorkWatch
