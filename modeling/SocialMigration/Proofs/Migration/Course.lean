import SocialMigration.Migration.Basic
import SocialMigration.Proofs.Migration.Writing

/-!
# The course of a run

Every way in which a run can go, each with what is left behind: a precondition that is not met, a
failure while reading, a dry run, a call that does not go through, and the end. A property of all
runs is shown by going through these.
-/

namespace SocialMigration

namespace Migration

variable {World : Type} {network : Network (StateM World)} {config : Config} {session : Session}
  {world : World}

variable [Platform]

/-- The ways in which the steps of a migration end, from a session on: the failure that stops them,
if one does, and the session after them. -/
inductive Course (network : Network (StateM World)) (config : Config) (session : Session) :
    Option Failure → Session → Prop where
  /-- A precondition is not met, or its status is not known. -/
  | refused {failure : Failure} {trace : List Event} {later : Session} :
      Refused network config trace failure → session.Logs trace later →
      Course network config session (some failure) later
  /-- A collection cannot be read, or has no total balance. -/
  | unread {failure : Failure} {stage : Stage} {nodes accounts : List Json} {reads : List Event}
      {later : Session} :
      network.Explains failure → .preconditionsOk ≤ stage → stage ≤ .accountsFetched →
      (∀ event ∈ reads, ReadsCollection config event) →
      ({ session with stage, nodes, accounts } : Session).Logs (admission config ++ reads) later →
      Course network config session (some failure) later
  /-- Everything is verified, and a dry run ends there. -/
  | dry {summary : Summary} {nodes accounts : List Json} {reads : List Event} {later : Session} :
      Verified network config summary nodes accounts reads → config.dryRun = true →
      ({ session with
          stage := .reported, nodes, accounts, summary := some summary } : Session).Logs reads
        later →
      Course network config session none later
  /-- The node count is not written. -/
  | countRefused {failure : Failure} {summary : Summary} {nodes accounts : List Json}
      {reads : List Event} {later : Session} :
      Verified network config summary nodes accounts reads → config.dryRun = false →
      network.Fails failure →
      ({ session with
          stage := .reported, nodes, accounts, summary := some summary } : Session).Logs
        (reads ++ [.called (nodeCountCall config summary.nodeCount) (.error failure)]) later →
      Course network config session (some failure) later
  /-- A batch of nodes is not written. -/
  | nodesStopped {summary : Summary} {nodes accounts : List Json} {reads : List Event}
      {done rest : List Batch} {batch : Batch} {cause : Failure} {later : Session} :
      Verified network config summary nodes accounts reads → config.dryRun = false →
      nodeBatches config nodes = done ++ batch :: rest →
      ({ session with
          stage := .nodeCountInitialized, nodes, accounts, summary := some summary } : Session).Logs
        (reads ++ ([.called (nodeCountCall config summary.nodeCount) (.ok ())] ++
          Batch.stoppedEvents (nodesTarget config) config.gas nodes.length done batch cause))
        later →
      Course network config session (some (.batch config.destination nodesMethod batch.first
        batch.last nodes.length cause)) later
  /-- A batch of accounts is not written. -/
  | accountsStopped {summary : Summary} {nodes accounts : List Json} {reads : List Event}
      {done rest : List Batch} {batch : Batch} {cause : Failure} {later : Session} :
      Verified network config summary nodes accounts reads → config.dryRun = false →
      accountBatches config accounts = done ++ batch :: rest →
      ({ session with
          stage := .nodesCommitted, nodes, accounts, summary := some summary
          nodesCommitted := some nodes.length } : Session).Logs
        (reads ++ ([.called (nodeCountCall config summary.nodeCount) (.ok ())] ++
          (Batch.writtenEvents (nodesTarget config) config.gas nodes.length
            (nodeBatches config nodes) ++
          Batch.stoppedEvents (accountsTarget config) config.gas accounts.length done batch
            cause)))
        later →
      Course network config session (some (.batch config.destination accountsMethod batch.first
        batch.last accounts.length cause)) later
  /-- Everything is written. -/
  | completed {summary : Summary} {nodes accounts : List Json} {reads : List Event}
      {later : Session} :
      Verified network config summary nodes accounts reads → config.dryRun = false →
      ({ session with
          stage := .done, nodes, accounts, summary := some summary
          nodesCommitted := some nodes.length
          accountsCommitted := some accounts.length } : Session).Logs
        (reads ++ ([.called (nodeCountCall config summary.nodeCount) (.ok ())] ++
          (Batch.writtenEvents (nodesTarget config) config.gas nodes.length
            (nodeBatches config nodes) ++
          Batch.writtenEvents (accountsTarget config) config.gas accounts.length
            (accountBatches config accounts))))
        later →
      Course network config session none later

variable [Platform.PrintsAll]

/-- The steps that write, after everything has been verified. -/
theorem writeAll_ends (usable : config.isUsable) {before : Session} {summary : Summary}
    {nodes accounts : List Json} {reads : List Event}
    (verified : Verified network config summary nodes accounts reads)
    (wet : config.dryRun = false)
    (logs : ({ before with
      stage := .reported, nodes, accounts, summary := some summary } : Session).Logs reads
        session) :
    Run.Ends (writeAll network config summary.nodeCount) session world
      (fun _ later _ => Course network config before none later)
      (fun failure later _ => Course network config before (some failure) later) := by
  rcases BatchLimits.ofSettings_ok usable with ⟨limits, fixed, size, gas⟩
  simp only [writeAll, Run.ends_bind, Run.ends_ofExcept, fixed, ends_advance]
  apply (initializeNodeCount_ends summary.nodeCount).mono
  · intro _ counted _ countLogs
    have counting : ({ before with
          stage := .nodeCountInitialized, nodes, accounts, summary := some summary } : Session).Logs
        (reads ++ [.called (nodeCountCall config summary.nodeCount) (.ok ())]) counted :=
      (logs.update ({ · with stage := .nodeCountInitialized }) fun _ _ => rfl).append
        countLogs
    apply (commitNodes_ends usable size gas).mono
    · intro _ written _ nodeLogs
      rw [counting.nodes_eq] at nodeLogs
      have writing : ({ before with
            stage := .nodesCommitted, nodes, accounts, summary := some summary
            nodesCommitted := some nodes.length } : Session).Logs
          (reads ++ [.called (nodeCountCall config summary.nodeCount) (.ok ())] ++
            Batch.writtenEvents (nodesTarget config) config.gas nodes.length
              (nodeBatches config nodes)) written :=
        (counting.update ({ · with
          stage := .nodesCommitted, nodes, nodesCommitted := some nodes.length })
            fun _ _ => rfl).append nodeLogs
      apply (commitAccounts_ends usable size gas).mono
      · intro _ later _ accountLogs
        rw [writing.accounts_eq] at accountLogs
        have finishing := ((writing.update ({ · with
          stage := .accountsCommitted, accounts
          accountsCommitted := some accounts.length }) fun _ _ => rfl).append
            accountLogs).update ({ · with stage := .done }) fun _ _ => rfl
        rw [List.append_assoc, List.append_assoc] at finishing
        exact .completed verified wet (finishing.andLines _)
      · intro failure later _ ended
        rcases ended with ⟨done, batch, rest, cause, split, rfl, accountLogs⟩
        rw [writing.accounts_eq] at split accountLogs ⊢
        have stopping := writing.append accountLogs
        rw [List.append_assoc, List.append_assoc] at stopping
        exact .accountsStopped verified wet split stopping
    · intro failure later _ ended
      rcases ended with ⟨done, batch, rest, cause, split, rfl, nodeLogs⟩
      rw [counting.nodes_eq] at split nodeLogs ⊢
      have stopping := counting.append nodeLogs
      rw [List.append_assoc] at stopping
      exact .nodesStopped verified wet split stopping
  · intro failure later _ ended
    rcases ended with ⟨fails, countLogs⟩
    exact .countRefused verified wet fails (logs.append countLogs)

/-- The steps of a migration take one of their courses. -/
theorem steps_ends (schedule : Schedule) (usable : config.isUsable) :
    Run.Ends (steps network schedule config) session world
      (fun _ later _ => Course network config session none later)
      (fun failure later _ => Course network config session (some failure) later) := by
  rw [steps, Run.ends_bind]
  apply (readAll_ends schedule usable).mono
  · intro count later after ended
    rcases ended with ⟨summary, nodes, accounts, reads, rfl, verified, logs⟩
    cases dry : config.dryRun with
    | true =>
        simp only [if_true, Run.ends_printBlock]
        exact .dry verified dry (logs.andLines _)
    | false => exact writeAll_ends usable verified dry logs
  · intro failure later _ ended
    rcases ended with ⟨trace, refused, logs⟩ | ⟨explained, stage, nodes, accounts, reads, admitted,
      early, known, logs⟩
    · exact .refused refused logs
    · exact .unread explained admitted early known logs

end Migration

end SocialMigration
