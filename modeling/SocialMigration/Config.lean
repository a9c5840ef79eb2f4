import SocialMigration.Gas
import SocialMigration.Text.Basic

/-!
# Configuration

Every parameter of one migration run, with the values they have unless they are set, and the
complaints about a configuration that cannot be used.
-/

namespace SocialMigration

/-- The parameters of a run. -/
structure Config where
  network : Text
  rpcUrl : Text
  source : Text
  destination : Text
  signer : Text
  program : Text := "near"
  pageSize : Int := 50
  chunkSize : Int := 20
  gas : Int := Gas.standard
  concurrency : Int := 8
  timeout : Int := 30
  nodesStart : Int := 0
  accountsStart : Int := 0
  dryRun : Bool := false
  debug : Bool := false
  outputFolder : Text := "./output"
  retentionDays : Int := 30
  saveResults : Bool := true
  deriving Repr

namespace Config

/-- A complaint, if there is a reason for it. -/
def complaint (reason : Bool) (words : String) : List Text :=
  if reason then [Text.ofString words] else []

/-- What is wrong with a configuration; nothing if it can be used. -/
def complaints (config : Config) : List Text :=
  complaint config.source.isEmpty "SOURCE_ACCOUNT_ID is required" ++
  complaint config.destination.isEmpty "DESTINATION_ACCOUNT_ID is required" ++
  complaint (!config.source.isEmpty && config.source == config.destination)
    "SOURCE_ACCOUNT_ID and DESTINATION_ACCOUNT_ID must differ" ++
  complaint config.signer.isEmpty "SIGNER_ACCOUNT_ID is required" ++
  complaint (config.pageSize ≤ 0) "FETCH_PAGE_SIZE must be positive" ++
  complaint (config.chunkSize ≤ 0) "COMMIT_CHUNK_SIZE must be positive" ++
  complaint (config.concurrency ≤ 0) "MAX_CONCURRENT_FETCHES must be positive" ++
  complaint (config.gas ≤ 0) "GAS_BUDGET must be positive" ++
  complaint (config.nodesStart < 0) "NODES_START_INDEX must not be negative" ++
  complaint (config.accountsStart < 0) "ACCOUNTS_START_INDEX must not be negative"

/-- Whether nothing is wrong with a configuration. -/
def isUsable (config : Config) : Bool :=
  config.complaints.isEmpty

end Config

end SocialMigration
