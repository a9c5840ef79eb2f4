import SocialMigration.Migration.Results
import SocialMigration.RunFolder.Basic

/-!
# Migration runs

A run takes the steps of a migration, turns a failure among them into part of its results, and
saves the results in its folder if that is wanted. Only the saving may still fail, and what is
printed after the steps.
-/

namespace SocialMigration

namespace Migration

/-- What a run needs from around it: the network, the order in which pages are answered, and the
time. -/
structure Host (m : Type → Type) where
  network : Network m
  schedule : Schedule
  now : m Moment

/-- The name of the file that holds the results of a run. -/
def resultsFileName : Text := "migration_results.json"

/-- The folder of a run that starts at a moment. -/
def runFolder (config : Config) (start : Moment) : RunFolder :=
  { base := config.outputFolder
    name := RunFolder.runName config.source config.destination
    retentionDays := config.retentionDays
    start }

/-- The lines that tell what has stopped the steps. -/
def errorLines (failure : Failure) : List Text :=
  [[], "  ERROR: " ++ failure.message]

/-- The lines that tell where the results are. -/
def savedLines (path : Text) : List Text :=
  [[], "  Results saved to: " ++ path]

variable [Platform] {m : Type → Type} [Monad m]

/-- Takes the steps and turns a failure into what is left to say about it, with the settings for the
next run. -/
def takeSteps (host : Host m) (config : Config) : Run m (Option Stop × Option Text) := do
  match ← Run.attempt (steps host.network host.schedule config) with
  | .ok () => return (none, none)
  | .error failure =>
    let (session, hint) := resume failure (← Run.session)
    Run.update fun _ => session
    Run.printBlock (errorLines failure)
    return (some ⟨failure.message, failure.reportName⟩, hint)

/-- Saves results in the folder of their run. -/
def saveResults (folder : RunFolder) (results : Results) : Run m Unit := do
  let session ← Run.session
  let (_, tree, saved) := folder.save session.tree resultsFileName results.toJson
  Run.update fun session => { session with tree }
  let path ← Run.ofExcept saved
  Run.printBlock (savedLines path)

/-- A whole run. -/
def run (host : Host m) (config : Config) (folder : RunFolder) : Run m Results := do
  let startedAt ← Run.effect host.now
  let (stop, resumeHint) ← takeSteps host config
  let session ← Run.session
  let completedAt ← Run.effect host.now
  let results : Results := {
    config, startedAt, completedAt, stop, resumeHint
    stage := session.stage
    summary := session.summary
    nodesCommitted := session.nodesCommitted
    accountsCommitted := session.accountsCommitted }
  if config.saveResults then saveResults folder results
  return results

end Migration

end SocialMigration
