import SocialMigration.Calendar
import SocialMigration.Migration.Steps

/-!
# The results of a run

What a run reports in the end: when it ran and with which parameters, how far it came, what it
counted and committed, and the failure that stopped it. If a batch failed, the report tells the
settings with which the next run goes on where this one stopped.
-/

namespace SocialMigration

namespace Migration

/-- What is left to say about a failure: its words and the name it is reported under. -/
structure Stop where
  words : Text
  reportName : Text
  deriving DecidableEq, Repr

/-- The results of a run. -/
structure Results where
  config : Config
  startedAt : Moment
  completedAt : Moment
  stop : Option Stop
  resumeHint : Option Text
  stage : Stage
  summary : Option Summary
  nodesCommitted : Option Nat
  accountsCommitted : Option Nat
  deriving Repr

/-- A setting for the next run. -/
def setting (name : Text) (value : Nat) : Text :=
  name ++ "=" ++ Text.ofNat value

/-- The session after a failure, with the place where a failed batch stopped it, and the settings
with which the next run goes on there. -/
def resume (failure : Failure) (session : Session) : Session × Option Text :=
  match failure with
  | .batch _ method first _ _ _ =>
    if method == nodesMethod then
      ({ session with nodesCommitted := some first }, some (setting "NODES_START_INDEX" first))
    else if method == accountsMethod then
      let hint := setting "ACCOUNTS_START_INDEX" first
      ({ session with accountsCommitted := some first },
        match session.nodesCommitted with
        | some committed => some (setting "NODES_START_INDEX" committed ++ " " ++ hint)
        | none => some hint)
    else (session, none)
  | _ => (session, none)

namespace Results

/-- Whether a run reached its end. -/
def success (results : Results) : Bool :=
  results.stop.isNone

/-- The parameters of a run in its report. -/
def configJson (config : Config) : Json :=
  .obj [("network_id", .str config.network), ("rpc_url", .str config.rpcUrl),
    ("source_account_id", .str config.source),
    ("destination_account_id", .str config.destination),
    ("signer_account_id", .str config.signer), ("page_size", .int config.pageSize),
    ("chunk_size", .int config.chunkSize), ("gas", .int config.gas),
    ("nodes_start_index", .int config.nodesStart),
    ("accounts_start_index", .int config.accountsStart), ("dry_run", .bool config.dryRun)]

/-- What a run counted, in its report. -/
def summaryJson (summary : Summary) : Json :=
  .obj [("node_count", .nat summary.nodeCount), ("nodes_fetched", .nat summary.nodesFetched),
    ("account_count", .nat summary.accountCount),
    ("accounts_fetched", .nat summary.accountsFetched),
    ("total_balance_yocto", .str summary.total.toText),
    ("total_balance_near", .str summary.totalNear.toText)]

/-- A count that may be missing. -/
def countJson (count : Option Nat) : Json :=
  match count with
  | some count => .nat count
  | none => .null

/-- A field that is there only if there is something to say. -/
def fieldOf {Value : Type} (key : Text) (value : Option Value) (toJson : Value → Json) :
    List (Text × Json) :=
  match value with
  | some value => [(key, toJson value)]
  | none => []

/-- The fields of a report that are known when a run begins, and whether it reached its end. -/
def openingFields (results : Results) : List (Text × Json) :=
  [("started_at", .str results.startedAt.report), ("migrator", "near-social-db"),
    ("config", configJson results.config), ("success", .bool results.success)]

/-- How far a run came. -/
def progressJson (results : Results) : Json :=
  .obj [("nodes_committed", countJson results.nodesCommitted),
    ("accounts_committed", countJson results.accountsCommitted)]

/-- The fields of a report that are known when a run is over. -/
def closingFields (results : Results) : List (Text × Json) :=
  [("state", .str results.stage.name), ("progress", results.progressJson),
    ("completed_at", .str results.completedAt.report)]

/-- The report of a run. -/
def toJson (results : Results) : Json :=
  .obj (results.openingFields ++
    fieldOf "summary" results.summary summaryJson ++
    fieldOf "error" results.stop (fun stop => .str stop.words) ++
    fieldOf "error_type" results.stop (fun stop => .str stop.reportName) ++
    fieldOf "resume_hint" results.resumeHint .str ++
    results.closingFields)

end Results

end Migration

end SocialMigration
