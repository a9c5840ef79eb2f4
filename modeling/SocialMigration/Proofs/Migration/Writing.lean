import SocialMigration.Migration.Steps
import SocialMigration.Proofs.Batch.Commit
import SocialMigration.Proofs.Migration.Reading

/-!
# The steps that write

What the last three steps leave behind: the call that initializes the node count, the batches of
nodes and the batches of accounts. Each of them is reached only if all calls before it succeeded.
-/

namespace SocialMigration

namespace Migration

variable {World : Type} {network : Network (StateM World)} {config : Config} {session : Session}
  {world : World} {limits : BatchLimits}

/-- The call that tells the destination the number of nodes. -/
def nodeCountCall (config : Config) (count : Nat) : Call :=
  ⟨config.destination, "genesis_init_node_count", .obj [("node_count", .nat count)], config.gas⟩

/-- Where nodes are written. -/
def nodesTarget (config : Config) : Batch.Target :=
  ⟨config.destination, nodesMethod, "nodes", some "nodes"⟩

/-- Where accounts are written. -/
def accountsTarget (config : Config) : Batch.Target :=
  ⟨config.destination, accountsMethod, "accounts", some "accounts"⟩

/-- The batches in which nodes are written. -/
def nodeBatches (config : Config) (nodes : List Json) : List Batch :=
  Batch.all config.chunkSize.toNat nodes config.nodesStart.toNat

/-- The batches in which accounts are written. -/
def accountBatches (config : Config) (accounts : List Json) : List Batch :=
  Batch.all config.chunkSize.toNat accounts config.accountsStart.toNat

section

variable [Platform] [Platform.PrintsAll]

theorem initializeNodeCount_ends (count : Nat) :
    Run.Ends (initializeNodeCount network config count) session world
      (fun _ later _ => ({ session with stage := .nodeCountInitialized } : Session).Logs
        [.called (nodeCountCall config count) (.ok ())] later)
      (fun failure later _ => network.Fails failure ∧
        session.Logs [.called (nodeCountCall config count) (.error failure)] later) := by
  have headed := (session.logs_printed (stepHeading 5 "INITIALIZE NODE COUNT")).andLines
    ["  Initializing node count to " ++ Text.ofNat count]
  simp only [initializeNodeCount, Run.ends_bind, Run.ends_printAll, Run.ends_print,
    Run.ends_ofExcept, ends_advance]
  refine (Run.send_ends (nodeCountCall config count)).mono ?_ (fun _ _ _ => False.elim)
  intro outcome later _ ended
  rcases ended with ⟨fails, logs⟩
  cases outcome with
  | error failure => exact ⟨fails failure rfl, headed.append logs⟩
  | ok =>
      exact ((headed.append logs).update
        ({ · with stage := .nodeCountInitialized }) fun _ _ => rfl).andLines _

/-- A collection is written to its end or up to a batch. What was printed before does not show, and
the limits are those of the configuration. -/
theorem commitCollection_ends (size : limits.size = config.chunkSize.toNat)
    (gas : limits.gas = config.gas) (target : Batch.Target) (records : List Json) {start : Int}
    (nonneg : 0 ≤ start) {before : Session} (front : before.Logs [] session) :
    Run.Ends (Batch.commitAll network limits target records start) session world
      (fun last later _ => last = records.length ∧
        before.Logs (Batch.writtenEvents target config.gas records.length
          (Batch.all config.chunkSize.toNat records start.toNat)) later)
      (fun failure later _ => ∃ done batch rest cause,
        Batch.all config.chunkSize.toNat records start.toNat = done ++ batch :: rest ∧
        failure =
          .batch target.contract target.method batch.first batch.last records.length cause ∧
        before.Logs (Batch.stoppedEvents target config.gas records.length done batch cause)
          later) := by
  rw [← size, ← gas]
  apply (Batch.commitAll_ends records nonneg).mono
  · intro last later _ ended
    rcases ended with ⟨same, logs⟩
    exact ⟨same, front.append logs⟩
  · intro failure later _ ended
    rcases ended with ⟨done, batch, rest, cause, split, named, logs⟩
    exact ⟨done, batch, rest, cause, split, named, front.append logs⟩

theorem commitNodes_ends (usable : config.isUsable) (size : limits.size = config.chunkSize.toNat)
    (gas : limits.gas = config.gas) :
    Run.Ends (commitNodes network config limits) session world
      (fun _ later _ =>
        ({ session with
            stage := .nodesCommitted
            nodesCommitted := some session.nodes.length } : Session).Logs
          (Batch.writtenEvents (nodesTarget config) config.gas session.nodes.length
            (nodeBatches config session.nodes)) later)
      (fun failure later _ => ∃ done batch rest cause,
        nodeBatches config session.nodes = done ++ batch :: rest ∧
        failure = .batch config.destination nodesMethod batch.first batch.last
          session.nodes.length cause ∧
        session.Logs (Batch.stoppedEvents (nodesTarget config) config.gas session.nodes.length
          done batch cause) later) := by
  have headed := (session.logs_printed (stepHeading 6 "COMMIT NODES")).andLines
    (if config.nodesStart != 0 then
      ["  Resuming from node " ++ Text.ofInt config.nodesStart] else [])
  simp only [commitNodes, printStart, Run.ends_bind, Run.ends_printAll, Run.ends_printIf,
    Run.ends_session, Session.extend_nodes, Run.ends_update, ends_advance]
  refine (commitCollection_ends size gas (nodesTarget config) session.nodes
    (Config.isUsable_iff.mp usable).nodesStart headed).mono ?_ (fun _ _ _ => id)
  intro committed later _ ended
  rcases ended with ⟨rfl, logs⟩
  exact (logs.update ({ · with
    stage := .nodesCommitted, nodesCommitted := some session.nodes.length })
      fun _ _ => rfl).andLines _

theorem commitAccounts_ends (usable : config.isUsable)
    (size : limits.size = config.chunkSize.toNat) (gas : limits.gas = config.gas) :
    Run.Ends (commitAccounts network config limits) session world
      (fun _ later _ =>
        ({ session with
            stage := .accountsCommitted
            accountsCommitted := some session.accounts.length } : Session).Logs
          (Batch.writtenEvents (accountsTarget config) config.gas session.accounts.length
            (accountBatches config session.accounts)) later)
      (fun failure later _ => ∃ done batch rest cause,
        accountBatches config session.accounts = done ++ batch :: rest ∧
        failure = .batch config.destination accountsMethod batch.first batch.last
          session.accounts.length cause ∧
        session.Logs (Batch.stoppedEvents (accountsTarget config) config.gas
          session.accounts.length done batch cause) later) := by
  have headed := (session.logs_printed (stepHeading 7 "COMMIT ACCOUNTS")).andLines
    (if config.accountsStart != 0 then
      ["  Resuming from account " ++ Text.ofInt config.accountsStart] else [])
  simp only [commitAccounts, printStart, Run.ends_bind, Run.ends_printAll, Run.ends_printIf,
    Run.ends_session, Session.extend_accounts, Run.ends_update, ends_advance]
  refine (commitCollection_ends size gas (accountsTarget config) session.accounts
    (Config.isUsable_iff.mp usable).accountsStart headed).mono ?_ (fun _ _ _ => id)
  intro committed later _ ended
  rcases ended with ⟨rfl, logs⟩
  exact (logs.update ({ · with
    stage := .accountsCommitted, accountsCommitted := some session.accounts.length })
      fun _ _ => rfl).andLines _

end

end Migration

end SocialMigration
