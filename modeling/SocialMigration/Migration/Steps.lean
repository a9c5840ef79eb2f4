import SocialMigration.Batch
import SocialMigration.Config
import SocialMigration.Page.Fetch
import SocialMigration.Precondition

/-!
# The steps of a migration

Seven steps in a fixed order: the preconditions, the nodes, the accounts, the report, the node
count, the batches of nodes and the batches of accounts. The first four only read, and a dry run
ends after them; so nothing is written before everything has been checked, fetched and counted.
-/

namespace SocialMigration

namespace Migration

/-- In which orders the pages of the two collections are answered. -/
structure Schedule where
  nodes : Delivery := .atOnce
  accounts : Delivery := .atOnce

/-- A line that sets parts of the output apart. -/
def rule : Text := List.replicate 60 0x3D

/-- The lines that head a part of the output. -/
def heading (title : Text) : List Text :=
  [[], rule, title, rule]

/-- The lines that head a step. -/
def stepHeading (number : Nat) (title : Text) : List Text :=
  heading ("STEP " ++ Text.ofNat number ++ ": " ++ title)

/-- The line that tells how many records of a kind were fetched and how many the source reports. -/
def fetchedLine (kind : Text) (fetched reported : Nat) : Text :=
  "  Num " ++ kind ++ ": " ++ Text.ofNat fetched ++ " (reported: " ++ Text.ofNat reported ++ ")"

/-- The line of the report that counts records of a kind. -/
def countLine (kind : Text) (count : Nat) : Text :=
  "  Num " ++ kind ++ ": " ++ Text.ofNat count

variable [Platform] {m : Type → Type} [Monad m]

/-- Reaches a stage. -/
def advance (config : Config) (stage : Stage) : Run m Unit := do
  Run.update fun session => { session with stage }
  Run.printIf config.debug ("  State: " ++ stage.name)

/-- Ends the run with an answer that is no count, which the failure quotes. -/
def refuseCount (account method : Text) (answer : Json) : Run m Nat := do
  Run.requireWords .count answer
  Run.fail (.query account method (.badCount answer))

/-- The number of records of a collection that the source reports, which has to be natural. -/
def reportedCount (network : Network m) (account method : Text) : Run m Nat := do
  match ← Run.ask network ⟨account, method, none⟩ with
  | .int value => if 0 ≤ value then return value.toNat else refuseCount account method (.int value)
  | answer => refuseCount account method answer

/-- The first step: both contracts are as they have to be. -/
def checkPreconditions (network : Network m) (config : Config) : Run m Unit := do
  Run.printAll (stepHeading 1 "PRECONDITIONS")
  Precondition.check network config.debug config.source config.destination
  Run.print ("  Source " ++ config.source ++ " is ReadOnly")
  Run.print ("  Destination " ++ config.destination ++ " is in Genesis")
  advance config .preconditionsOk

/-- The source of the pages of a collection. -/
def pageSource (network : Network m) (config : Config) (method : Text) : Page.Source m :=
  ⟨network, config.source, method, config.debug⟩

/-- The second step: the nodes. The result is the number that the source reports. -/
def fetchNodes (network : Network m) (delivery : Delivery) (config : Config)
    (limits : PageLimits) : Run m Nat := do
  Run.printAll (stepHeading 2 "FETCH NODES")
  let count ← reportedCount network config.source "get_node_count"
  let nodes ← Page.fetchAll (pageSource network config "get_nodes") limits delivery count
  Run.update fun session => { session with nodes }
  Run.print (fetchedLine "nodes" nodes.length count)
  advance config .nodesFetched
  return count

/-- The third step: the accounts. The result is the number that the source reports. -/
def fetchAccounts (network : Network m) (delivery : Delivery) (config : Config)
    (limits : PageLimits) : Run m Nat := do
  Run.printAll (stepHeading 3 "FETCH ACCOUNTS")
  let count ← reportedCount network config.source "get_account_count"
  let accounts ← Page.fetchAll (pageSource network config "get_accounts") limits delivery count
  Run.update fun session => { session with accounts }
  Run.print (fetchedLine "accounts" accounts.length count)
  advance config .accountsFetched
  return count

/-- The fourth step: the records are counted and their balances added up. -/
def report (config : Config) (nodeCount accountCount : Nat) : Run m Unit := do
  Run.printAll (stepHeading 4 "REPORT")
  let session ← Run.session
  let nodesFetched := session.nodes.length
  let accountsFetched := session.accounts.length
  let total ← Run.ofExcept ((Balance.sum session.accounts).mapError Failure.ofReport)
  Run.print (countLine "nodes" nodesFetched)
  Run.print (countLine "accounts" accountsFetched)
  let totalNear ← Run.ofExcept
    ((Balance.toNear total Balance.reportPlaces).mapError Failure.arithmetic)
  Run.print ("  Total balance: " ++ totalNear.toText ++ " NEAR")
  Run.update fun session => { session with
    summary := some
      { nodeCount, nodesFetched, accountCount, accountsFetched, total, totalNear } }
  advance config .reported

/-- The fifth step: the destination learns the number of nodes, so that new ones are numbered after
them. -/
def initializeNodeCount (network : Network m) (config : Config) (nodeCount : Nat) :
    Run m Unit := do
  Run.printAll (stepHeading 5 "INITIALIZE NODE COUNT")
  Run.print ("  Initializing node count to " ++ Text.ofNat nodeCount)
  let outcome ← Run.send network ⟨config.destination, "genesis_init_node_count",
    .obj [("node_count", .nat nodeCount)], config.gas⟩
  Run.ofExcept outcome
  advance config .nodeCountInitialized

/-- The method that writes a batch of nodes. -/
def nodesMethod : Text := "genesis_init_nodes"

/-- The method that writes a batch of accounts. -/
def accountsMethod : Text := "genesis_init_accounts"

/-- Tells from which record on a collection is written, unless that is the first. -/
def printStart (kind : Text) (start : Int) : Run m Unit :=
  Run.printIf (start != 0) ("  Resuming from " ++ kind ++ " " ++ Text.ofInt start)

/-- The sixth step: all batches of nodes. -/
def commitNodes (network : Network m) (config : Config) (limits : BatchLimits) : Run m Unit := do
  Run.printAll (stepHeading 6 "COMMIT NODES")
  printStart "node" config.nodesStart
  let session ← Run.session
  let committed ← Batch.commitAll network limits
    ⟨config.destination, nodesMethod, "nodes", some "nodes"⟩ session.nodes config.nodesStart
  Run.update fun session => { session with nodesCommitted := some committed }
  advance config .nodesCommitted

/-- The seventh step: all batches of accounts. -/
def commitAccounts (network : Network m) (config : Config) (limits : BatchLimits) :
    Run m Unit := do
  Run.printAll (stepHeading 7 "COMMIT ACCOUNTS")
  printStart "account" config.accountsStart
  let session ← Run.session
  let committed ← Batch.commitAll network limits
    ⟨config.destination, accountsMethod, "accounts", some "accounts"⟩ session.accounts
    config.accountsStart
  Run.update fun session => { session with accountsCommitted := some committed }
  advance config .accountsCommitted

/-- The steps that only read. The result is the number of nodes that the source reports. -/
def readAll (network : Network m) (schedule : Schedule) (config : Config) : Run m Nat := do
  checkPreconditions network config
  let limits ← Run.ofExcept (PageLimits.ofSettings config.pageSize config.concurrency)
  let nodeCount ← fetchNodes network schedule.nodes config limits
  let accountCount ← fetchAccounts network schedule.accounts config limits
  report config nodeCount accountCount
  return nodeCount

/-- The steps that write. -/
def writeAll (network : Network m) (config : Config) (nodeCount : Nat) : Run m Unit := do
  initializeNodeCount network config nodeCount
  let limits ← Run.ofExcept (BatchLimits.ofSettings config.chunkSize config.gas config.debug)
  commitNodes network config limits
  commitAccounts network config limits
  advance config .done

/-- All steps, or only those that read in a dry run. -/
def steps (network : Network m) (schedule : Schedule) (config : Config) : Run m Unit := do
  let nodeCount ← readAll network schedule config
  if config.dryRun then
    Run.printBlock [[], "  Dry run: skipping all writes to the destination"]
  else writeAll network config nodeCount

end Migration

end SocialMigration
