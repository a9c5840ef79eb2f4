import SocialMigration.CommandLine.Options
import SocialMigration.Migration.Basic
import SocialMigration.Migration.Overview
import SocialMigration.Rpc.Client
import SocialMigration.RunFolder.Retention
import SocialMigration.Settings.Load
import SocialMigration.Signer

/-!
# The command line

What the program does from its start to its exit status: it loads a configuration, says what it is
about to do, refuses a configuration that cannot be used, removes expired run folders, migrates and
gives an overview of the results. Zero stands for success, one for a configuration that cannot be
used or a migration that did not reach its end, and two for a command line that cannot be read.
-/

namespace SocialMigration

namespace CommandLine

/-- What the program needs from around it: the environment and how a settings file is merged into
it, a way to post requests, a machine on which calls are signed, the order in which pages are
answered, and the time. -/
structure Host (m : Type → Type) where
  environment : Settings.Environment
  merge : Settings.Merge
  transport : Rpc.Transport m
  machine : Machine m
  schedule : Migration.Schedule
  now : m Moment

/-- The version of the program. -/
def version : Text := "0.1.0"

/-- How the program is used. -/
def usage : List Text :=
  ["usage: near-social-db-migrator [-h] [--env ENV] [--debug] [--dry-run] [--version]",
    [],
    "NEAR Social DB Migrator - Copy nodes and accounts between social DB contracts",
    [],
    "options:",
    "  -h, --help         show this help message and exit",
    "  --env ENV, -e ENV  Path to .env file",
    "  --debug            Enable debug output",
    "  --dry-run          Fetch and report only (no writes)",
    "  --version, -v      Show version and exit"]

/-- A configuration with what the options ask for on top. -/
def Options.override (options : Options) (config : Config) : Config :=
  { config with
    debug := config.debug || options.debug
    dryRun := config.dryRun || options.dryRun }

/-- The lines that tell what is about to be done. -/
def header (config : Config) : List Text :=
  let mode : Text := if config.dryRun then "DRY RUN" else "LIVE MIGRATION"
  Migration.heading ("NEAR SOCIAL DB MIGRATOR v" ++ version) ++
    [Text.ofString "Mode: " ++ mode,
      "Network: " ++ config.network ++ " (" ++ config.rpcUrl ++ ")",
      "Source: " ++ config.source,
      "Destination: " ++ config.destination,
      "Signer: " ++ config.signer]

/-- The lines that tell what is wrong with a configuration. -/
def complaintLines (complaints : List Text) : List Text :=
  [[], Text.ofString "Configuration Errors:"] ++
    complaints.map fun complaint => Text.ofString "  - " ++ complaint

/-- The lines that tell why there is no configuration. -/
def refusalLines (fault : Settings.Fault) : List Text :=
  [[], "Configuration Error: " ++ fault.message]

variable [Platform] {m : Type → Type} [Monad m]

/-- The network of a configuration: reads go to its node, writes are signed by its signer. -/
def Host.network (host : Host m) (config : Config) : Network m :=
  let endpoint : Rpc.Endpoint := ⟨config.rpcUrl, config.timeout, config.debug⟩
  let signer : Signer := ⟨config.signer, config.network, config.program, config.debug⟩
  ⟨endpoint.ask host.transport, signer.send host.machine⟩

/-- Loads a configuration; nothing if one of the settings has no meaning, which is printed. -/
def loadConfig (host : Host m) (path : Text) : Run m (Option Config) := do
  let session ← Run.session
  let (lines, loaded) := Settings.load host.merge session.tree host.environment path
  Run.printAll lines
  match loaded with
  | .ok config => return some config
  | .error (.setting fault) =>
    if fault.isConfiguration then
      Run.printBlock (refusalLines fault)
      return none
    else Run.fail (.setting fault)
  | .error failure => Run.fail failure

/-- Takes down what a clean-up has done to the files, and the lines that it has printed. -/
def settle (cleanUp : RunFolder.CleanUp) : Run m Unit := do
  Run.update fun session => { session with tree := cleanUp.tree }
  Run.recordLines cleanUp.lines

/-- Removes the run folders that have expired. -/
def removeExpired (host : Host m) (config : Config) (folder : RunFolder) : Run m Unit := do
  if folder.retentionDays ≤ 0 then return
  let now ← Run.effect host.now
  let session ← Run.session
  match folder.cleanUp config.debug session.tree now with
  | .ok cleanUp =>
    settle cleanUp
    Run.printIf (0 < cleanUp.removed)
      ("Cleaned up " ++ Text.ofNat cleanUp.removed ++ " old output folder(s)")
  | .error interrupted =>
    settle interrupted.done
    Run.fail interrupted.failure

/-- Migrates as a usable configuration says. The result is the exit status. -/
def migrate (host : Host m) (config : Config) : Run m Nat := do
  let folder := Migration.runFolder config (← Run.effect host.now)
  removeExpired host config folder
  let results ← Migration.run ⟨host.network config, host.schedule, host.now⟩ config folder
  Migration.printOverview results.toJson
  return if results.success then 0 else 1

/-- Runs with options. The result is the exit status. -/
def runWith (host : Host m) (options : Options) : Run m Nat := do
  if options.version then
    Run.print ("near-social-db-migrator " ++ version)
    return 0
  match ← loadConfig host options.settingsPath with
  | none => return 1
  | some loaded =>
    let config := options.override loaded
    Run.printAll (header config)
    if config.isUsable then migrate host config
    else
      Run.printAll (complaintLines config.complaints)
      return 1

/-- Runs as a command line asks. The result is the exit status; help and misuse leave it to the
caller to tell how the program is used. -/
def run (host : Host m) (reading : Reading) : Run m Nat :=
  match reading with
  | .help => pure 0
  | .misuse => pure 2
  | .start options => runWith host options

end CommandLine

end SocialMigration
