import SocialMigration.Migration.Basic
import SocialMigration.Proofs.Migration.Reading

/-!
# Sources that hold collections

A source that is read-only answers every query for the size of a collection with its true size, and
every query for a page with the slice that it asks for, if it answers at all. What a run verifies
over such a network is the collections themselves.
-/

namespace SocialMigration

namespace Network

variable {World : Type}

/-- A network whose source holds two collections. It may fail at any query or call, though not with
the failure of a batch, which names records that a commit was to write. -/
structure Serves (network : Network (StateM World)) (source : Text) (nodes accounts : List Json) :
    Prop where
  nodeCount : ∀ answer, network.Answers ⟨source, "get_node_count", none⟩ answer →
    answer = .nat nodes.length
  nodes : ∀ (page : Page) answer, network.Answers (page.query source "get_nodes") answer →
    answer = .arr (page.slice nodes)
  accountCount : ∀ answer, network.Answers ⟨source, "get_account_count", none⟩ answer →
    answer = .nat accounts.length
  accounts : ∀ (page : Page) answer, network.Answers (page.query source "get_accounts") answer →
    answer = .arr (page.slice accounts)
  plain : network.LeavesBatches

/-- The slice of a collection that the arguments of a query name. -/
def requestedSlice (records : List Json) : Option Json → List Json
  | some (.obj [(_, .int first), (_, .int limit)]) =>
    (records.drop first.toNat).take limit.toNat
  | _ => []

/-- The answer of a source that holds two collections, or of another account. -/
def ledgerAnswer (source : Text) (nodes accounts : List Json) (query : Query) : Json :=
  if query.method == "get_status" then
    if query.account == source then "ReadOnly" else "Genesis"
  else if query.method == "get_node_count" then .nat nodes.length
  else if query.method == "get_account_count" then .nat accounts.length
  else if query.method == "get_nodes" then .arr (requestedSlice nodes query.arguments)
  else .arr (requestedSlice accounts query.arguments)

/-- A network whose source holds two collections, and in which only as many calls go through as the
world says. -/
def ofLedger (source : Text) (nodes accounts : List Json) : Network (StateM Nat) where
  ask query := return ⟨[], .ok (ledgerAnswer source nodes accounts query)⟩
  send call := do
    match ← get with
    | 0 => return ⟨[], .error (.call call.contract call.method (.reported "not enough balance"))⟩
    | left + 1 =>
      set left
      return ⟨[], .ok ()⟩

theorem serves_ofLedger (source : Text) (nodes accounts : List Json) :
    (ofLedger source nodes accounts).Serves source nodes accounts where
  nodeCount := by
    intro answer answers
    rcases answers with ⟨world, ⟨⟩⟩
    rfl
  nodes := by
    intro page answer answers
    rcases answers with ⟨world, ⟨⟩⟩
    rfl
  accountCount := by
    intro answer answers
    rcases answers with ⟨world, ⟨⟩⟩
    rfl
  accounts := by
    intro page answer answers
    rcases answers with ⟨world, ⟨⟩⟩
    rfl
  plain := by
    intro failure answers
    rcases answers with ⟨query, world, ⟨⟩⟩ | ⟨call, ⟨_ | left⟩, ⟨⟩⟩
    rfl

end Network

namespace Migration

/-- A migration from one account to another in pages and batches of two, on test values. -/
def pairwise : Config where
  network := "testnet"
  rpcUrl := "https://rpc.testnet.near.org"
  source := "old.testnet"
  destination := "new.testnet"
  signer := "new.testnet"
  pageSize := 2
  chunkSize := 2
  saveResults := false

/-- Three nodes. -/
def someNodes : List Json := [.int 1, .int 2, .int 3]

/-- One account. -/
def someAccounts : List Json := [.arr ["a.testnet", .obj [("storage_balance", "1")]]]

/-- What surrounds this migration of three nodes and one account. -/
def pairwiseHost : Host (StateM Nat) where
  network := .ofLedger "old.testnet" someNodes someAccounts
  schedule := {}
  now := return ⟨2024, 1, 1, 0, 0, 0, 0⟩

variable {World : Type} {network : Network (StateM World)} {config : Config}

/-- The pages of a collection of its true size, each answered with its slice, are the collection. -/
theorem fetched_eq {account method : Text} {held : List Json} {arrivals : List (Page × List Json)}
    {pages : List Event} {size : Nat} (positive : 0 < size)
    (serves : ∀ (page : Page) answer, network.Answers (page.query account method) answer →
      answer = .arr (page.slice held))
    (fetched : Page.Fetched network account method (Page.all held.length size) arrivals pages) :
    arrivals.flatMap Prod.snd = held := by
  have slices : ∀ arrival ∈ arrivals, arrival.2 = arrival.1.slice held := by
    intro arrival member
    exact Json.arr.inj (serves arrival.1 _ (fetched.truthful arrival member))
  calc arrivals.flatMap Prod.snd
    _ = arrivals.flatMap fun arrival => arrival.1.slice held :=
      List.flatMap_congr slices
    _ = (arrivals.map Prod.fst).flatMap (Page.slice held) := (List.flatMap_map ..).symm
    _ = held := by
      rw [fetched.complete, Page.flatMap_slice_all positive, List.take_length]

theorem Collected.eq {countMethod pageMethod : Text} {held records : List Json} {count : Nat}
    {trace : List Event} (usable : config.isUsable)
    (counts : ∀ answer, network.Answers ⟨config.source, countMethod, none⟩ answer →
      answer = .nat held.length)
    (serves : ∀ (page : Page) answer,
      network.Answers (page.query config.source pageMethod) answer →
        answer = .arr (page.slice held))
    (collected : Collected network config countMethod pageMethod count records trace) :
    count = held.length ∧ records = held := by
  have same : count = held.length :=
    Int.ofNat.inj (Json.int.inj (counts _ collected.counted))
  rcases collected.fetched with ⟨arrivals, pages, fetched, rfl, -⟩
  rw [same] at fetched
  exact ⟨same, fetched_eq (Config.pageSize_pos usable) serves fetched⟩

/-- What is verified over a source that holds collections is these collections. -/
theorem Verified.eq [Platform] {summary : Summary} {nodes accounts nodes' accounts' : List Json}
    {trace : List Event} (usable : config.isUsable)
    (serves : network.Serves config.source nodes accounts)
    (verified : Verified network config summary nodes' accounts' trace) :
    nodes' = nodes ∧ accounts' = accounts := by
  rcases verified.read with ⟨nodeReads, accountReads, nodesCollected, accountsCollected, -⟩
  exact ⟨(nodesCollected.eq usable serves.nodeCount serves.nodes).2,
    (accountsCollected.eq usable serves.accountCount serves.accounts).2⟩

end Migration

end SocialMigration
