import SocialMigration.Proofs.Migration.WritePlan

/-!
# What has been written

How far a run that stops somewhere has come with its batches, which calls of it went through, and
what is noted for the next run when a batch stops it.
-/

namespace SocialMigration

namespace Migration

variable {World : Type} {network : Network (StateM World)} {config : Config}
  {stopped later : Session}

/-- The method that writes the node count. -/
def nodeCountMethod : Text := "genesis_init_node_count"

theorem methods_apart : nodeCountMethod ≠ nodesMethod ∧ nodeCountMethod ≠ accountsMethod ∧
    nodesMethod ≠ accountsMethod := by
  decide

/-! ## What is noted for the next run -/

theorem settled_nodes (first last total : Nat) (cause : Failure) (contract : Text)
    (session : Session) :
    settled (some (.batch contract nodesMethod first last total cause)) session =
      ({ session with nodesCommitted := some first },
        some (setting "NODES_START_INDEX" first)) := rfl

theorem settled_accounts (first last total : Nat) (cause : Failure) (contract : Text)
    {committed : Nat} (noted : stopped.nodesCommitted = some committed) :
    settled (some (.batch contract accountsMethod first last total cause)) stopped =
      ({ stopped with accountsCommitted := some first },
        some (setting "NODES_START_INDEX" committed ++ " " ++
          setting "ACCOUNTS_START_INDEX" first)) := by
  cases stopped
  cases noted
  rfl

theorem settled_of_plain {reason : Failure} (plain : reason.isBatch = false) (session : Session) :
    settled (some reason) session = (session, none) := by
  cases reason <;> first | rfl | exact nomatch plain

/-! ## How far the batches have come -/

/-- A session in which the node count is written, and then some batches of nodes and of accounts. -/
structure Wrote (config : Config) (session : Session) (nodes accounts : List Batch) : Prop where
  count : session.succeeded nodeCountMethod ≠ []
  nodes : session.succeeded nodesMethod = nodes.map (Batch.call (nodesTarget config) config.gas)
  accounts : session.succeeded accountsMethod =
    accounts.map (Batch.call (accountsTarget config) config.gas)

theorem Wrote.nodes_written {nodes accounts : List Batch}
    (wrote : Wrote config stopped nodes accounts) :
    stopped.written nodesMethod = nodes.flatMap Batch.records := by
  rw [Session.written, Event.written, ← Session.succeeded, wrote.nodes,
    Batch.flatMap_records_calls]

theorem Wrote.accounts_written {nodes accounts : List Batch}
    (wrote : Wrote config stopped nodes accounts) :
    stopped.written accountsMethod = accounts.flatMap Batch.records := by
  rw [Session.written, Event.written, ← Session.succeeded, wrote.accounts,
    Batch.flatMap_records_calls]

theorem Wrote.of_succeeded (count : Call) {nodes accounts : List Batch}
    (made : ∀ method, stopped.succeeded method =
      (if nodeCountMethod == method then [count] else []) ++
        ((if nodesMethod == method then nodes.map (Batch.call (nodesTarget config) config.gas)
          else []) ++
        if accountsMethod == method then
          accounts.map (Batch.call (accountsTarget config) config.gas) else [])) :
    Wrote config stopped nodes accounts where
  count := by
    rw [made]
    exact List.cons_ne_nil _ _
  nodes := (made nodesMethod).trans (List.append_nil _)
  accounts := made accountsMethod

section

variable [Platform]

/-- The calls of a method that succeed after everything is verified. -/
theorem Verified.succeeded {summary : Summary} {nodes accounts : List Json} {start : Session}
    {reads writes : List Event}
    (verified : Verified network config summary nodes accounts reads)
    (fresh : start.journal = []) (logs : start.Logs (reads ++ writes) later) (method : Text) :
    later.succeeded method = Event.succeeded method writes := by
  rw [logs.succeeded_of_fresh fresh, Event.succeeded_append,
    Event.succeeded_of_calls verified.calls, List.nil_append]

variable {summary : Summary} {nodes accounts : List Json} {reads : List Event}
  {done : List Batch} {batch : Batch} {cause : Failure} {start : Session}

theorem Verified.wrote_nodesStopped
    (verified : Verified network config summary nodes accounts reads)
    (fresh : start.journal = [])
    (logs : start.Logs
      (reads ++ ([.called (nodeCountCall config summary.nodeCount) (.ok ())] ++
        Batch.stoppedEvents (nodesTarget config) config.gas nodes.length done batch cause))
      stopped) : Wrote config stopped done [] := by
  apply Wrote.of_succeeded (nodeCountCall config summary.nodeCount)
  intro method
  rw [verified.succeeded fresh logs, Event.succeeded_append, Event.succeeded_called,
    Batch.succeeded_stoppedEvents, List.map_nil, ite_self, List.append_nil]
  rfl

theorem Verified.wrote_accountsStopped
    (verified : Verified network config summary nodes accounts reads)
    (fresh : start.journal = [])
    (logs : start.Logs
      (reads ++ ([.called (nodeCountCall config summary.nodeCount) (.ok ())] ++
        (Batch.writtenEvents (nodesTarget config) config.gas nodes.length
          (nodeBatches config nodes) ++
        Batch.stoppedEvents (accountsTarget config) config.gas accounts.length done batch cause)))
      stopped) : Wrote config stopped (nodeBatches config nodes) done := by
  apply Wrote.of_succeeded (nodeCountCall config summary.nodeCount)
  intro method
  rw [verified.succeeded fresh logs, Event.succeeded_append, Event.succeeded_called,
    Event.succeeded_append, Batch.succeeded_writtenEvents, Batch.succeeded_stoppedEvents]
  rfl

theorem Verified.wrote_completed
    (verified : Verified network config summary nodes accounts reads)
    (fresh : start.journal = [])
    (logs : start.Logs
      (reads ++ ([.called (nodeCountCall config summary.nodeCount) (.ok ())] ++
        (Batch.writtenEvents (nodesTarget config) config.gas nodes.length
          (nodeBatches config nodes) ++
        Batch.writtenEvents (accountsTarget config) config.gas accounts.length
          (accountBatches config accounts))))
      stopped) :
    Wrote config stopped (nodeBatches config nodes) (accountBatches config accounts) := by
  apply Wrote.of_succeeded (nodeCountCall config summary.nodeCount)
  intro method
  rw [verified.succeeded fresh logs, Event.succeeded_append, Event.succeeded_called,
    Event.succeeded_append, Batch.succeeded_writtenEvents, Batch.succeeded_writtenEvents]
  rfl

theorem Refused.isBatch {trace : List Event} {reason : Failure}
    (plain : network.LeavesBatches) (refused : Refused network config trace reason) :
    reason.isBatch = false := by
  cases refused with
  | sourceUnknown fails => exact plain _ fails
  | destinationUnknown fails => exact plain _ fails
  | source | destination => exact Precondition.isBatch_refusal ..

end

end Migration

end SocialMigration
