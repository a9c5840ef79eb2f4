import SocialMigration.Proofs.Migration.Progress

/-!
# The results tell the truth

What the results of a run say about the destination agrees with the calls that went through: whether
the run succeeded, the stage it reached, how many records of each collection are committed, and
whether there is something to resume. It does so at every point where a run can stop, because only
the last call of a run can fail.

The network has to leave the failure of a batch to the commit, because results take from it which
records the batch held.
-/

namespace SocialMigration

namespace Migration

variable {World : Type} {network : Network (StateM World)} {config : Config}

/-- The hint that goes with numbers of committed records. -/
def hintOf (nodesCommitted accountsCommitted : Option Nat) : Text :=
  match nodesCommitted, accountsCommitted with
  | some nodes, some accounts =>
    setting "NODES_START_INDEX" nodes ++ " " ++ setting "ACCOUNTS_START_INDEX" accounts
  | some nodes, none => setting "NODES_START_INDEX" nodes
  | none, some accounts => setting "ACCOUNTS_START_INDEX" accounts
  | none, none => []

/-- Results that are true of a session: what they say can be read off its calls. -/
structure Truthful (config : Config) (session : Session) (results : Results) : Prop where
  success_iff_silent : results.success ↔ results.toJson.field? "error" = none
  success_iff_stage :
    results.success ↔ results.stage = .done ∨ config.dryRun = true ∧ results.stage = .reported
  nodeCountStage : .nodeCountInitialized ≤ results.stage ↔ session.succeeded nodeCountMethod ≠ []
  nodesStage : .nodesCommitted ≤ results.stage ↔ session.succeeded nodeCountMethod ≠ [] ∧
    session.succeeded nodesMethod = nodePlan config session.nodes
  doneStage : results.stage = .done ↔ session.succeeded nodeCountMethod ≠ [] ∧
    session.succeeded nodesMethod = nodePlan config session.nodes ∧
    session.succeeded accountsMethod = accountPlan config session.accounts
  passing : results.stage ≠ .accountsCommitted
  nodesCommitted : results.nodesCommitted =
    if .nodeCountInitialized ≤ results.stage then
      some (min config.nodesStart.toNat session.nodes.length +
        (session.written nodesMethod).length)
    else none
  accountsCommitted : results.accountsCommitted =
    if .nodesCommitted ≤ results.stage then
      some (min config.accountsStart.toNat session.accounts.length +
        (session.written accountsMethod).length)
    else none
  hint_iff : results.resumeHint.isSome ↔ ∃ call failure, (call, .error failure) ∈ session.calls ∧
    (call.method = nodesMethod ∨ call.method = accountsMethod)
  hint_text : ∀ hint, results.resumeHint = some hint →
    hint = hintOf results.nodesCommitted results.accountsCommitted

theorem success_iff_silent (results : Results) :
    results.success ↔ results.toJson.field? "error" = none := by
  rcases results with ⟨config, startedAt, completedAt, stop, hint, stage, summary, nodes, accounts⟩
  cases stop with
  | none => cases summary <;> cases hint <;> exact ⟨fun _ => rfl, fun _ => rfl⟩
  | some stop =>
      cases summary <;> cases hint <;>
        exact ⟨fun success => (nomatch success), fun silent => (nomatch silent)⟩

theorem Stage.of_early {stage : Stage} (early : stage ≤ .reported) :
    ¬ .nodeCountInitialized ≤ stage ∧ ¬ .nodesCommitted ≤ stage ∧ stage ≠ .done ∧
      stage ≠ .accountsCommitted := by
  cases stage <;> first | decide | exact absurd early (by decide)

variable {failure : Option Failure} {stopped later : Session} {results : Results}

/-- Results of a course that ends before the destination is changed. -/
theorem truthful_early (reports : Reports config failure stopped results)
    (early : stopped.stage ≤ .reported)
    (finished : failure = none ↔ config.dryRun = true ∧ stopped.stage = .reported)
    (unsettled : settled failure stopped = (stopped, none))
    (fresh : stopped.nodesCommitted = none ∧ stopped.accountsCommitted = none)
    (untouched : ∀ sent ∈ stopped.calls, sent.1.method = nodeCountMethod ∧ sent.2 ≠ .ok ()) :
    Truthful config stopped results := by
  rcases Stage.of_early early with ⟨uncounted, unwritten, undone, passing⟩
  have silent : ∀ method, stopped.succeeded method = [] := fun method =>
    Event.succeeded_of_failed fun sent member => (untouched sent member).2
  have nodes : results.nodesCommitted = none := by rw [reports.nodesCommitted, unsettled, fresh.1]
  have accounts : results.accountsCommitted = none := by
    rw [reports.accountsCommitted, unsettled, fresh.2]
  have hint : results.resumeHint = none := by rw [reports.resumeHint, unsettled]
  exact {
    success_iff_silent := success_iff_silent results
    success_iff_stage := by
      rw [reports.success_iff, finished, reports.stage]
      simp [undone]
    nodeCountStage := by simp [reports.stage, uncounted, silent]
    nodesStage := by simp [reports.stage, unwritten, silent]
    doneStage := by simp [reports.stage, undone, silent]
    passing := by rwa [reports.stage]
    nodesCommitted := by rw [nodes, reports.stage, if_neg uncounted]
    accountsCommitted := by rw [accounts, reports.stage, if_neg unwritten]
    hint_iff := by
      simp only [hint, Option.isSome_none, Bool.false_eq_true, false_iff]
      intro failed
      rcases failed with ⟨call, cause, member, ofBatch⟩
      have counts := (untouched _ member).1
      exact ofBatch.elim (fun same => methods_apart.1 (counts.symm.trans same))
        fun same => methods_apart.2.1 (counts.symm.trans same)
    hint_text := by simp [hint] }

/-- Results of a course that ends after the node count is written. -/
theorem truthful_late {doneNodes doneAccounts : List Batch}
    (reports : Reports config failure stopped results)
    (wrote : Wrote config stopped doneNodes doneAccounts)
    (late : .nodeCountInitialized ≤ stopped.stage) (passing : stopped.stage ≠ .accountsCommitted)
    (finished : failure = none ↔ stopped.stage = .done)
    (nodesStage : .nodesCommitted ≤ stopped.stage ↔
      stopped.succeeded nodesMethod = nodePlan config stopped.nodes)
    (doneStage : stopped.stage = .done ↔ .nodesCommitted ≤ stopped.stage ∧
      stopped.succeeded accountsMethod = accountPlan config stopped.accounts)
    (nodesCommitted : (settled failure stopped).1.nodesCommitted =
      some (min config.nodesStart.toNat stopped.nodes.length +
        (doneNodes.flatMap Batch.records).length))
    (accountsCommitted : (settled failure stopped).1.accountsCommitted =
      if .nodesCommitted ≤ stopped.stage then
        some (min config.accountsStart.toNat stopped.accounts.length +
          (doneAccounts.flatMap Batch.records).length)
      else none)
    (hint_iff : (settled failure stopped).2.isSome ↔ failure ≠ none)
    (failed : failure ≠ none ↔ ∃ call failure, (call, .error failure) ∈ stopped.calls ∧
      (call.method = nodesMethod ∨ call.method = accountsMethod))
    (hint_text : ∀ hint, (settled failure stopped).2 = some hint →
      hint = hintOf (settled failure stopped).1.nodesCommitted
        (settled failure stopped).1.accountsCommitted) :
    Truthful config stopped results := by
  have undry : stopped.stage ≠ .reported := by
    intro reported
    rw [reported] at late
    exact absurd late (by decide)
  exact {
    success_iff_silent := success_iff_silent results
    success_iff_stage := by
      rw [reports.success_iff, finished, reports.stage]
      simp [undry]
    nodeCountStage := by simp [reports.stage, late, wrote.count]
    nodesStage := by simp [reports.stage, nodesStage, wrote.count]
    doneStage := by simp [reports.stage, doneStage, nodesStage, wrote.count]
    passing := by rwa [reports.stage]
    nodesCommitted := by
      rw [reports.nodesCommitted, nodesCommitted, reports.stage, if_pos late, wrote.nodes_written]
    accountsCommitted := by
      rw [reports.accountsCommitted, accountsCommitted, reports.stage, wrote.accounts_written]
    hint_iff := by rw [reports.resumeHint, hint_iff, failed]
    hint_text := by
      rw [reports.resumeHint, reports.nodesCommitted, reports.accountsCommitted]
      exact hint_text }

theorem Truthful.keep (truthful : Truthful config stopped results) (keeps : Keeps stopped later) :
    Truthful config later results := by
  rcases truthful with
    ⟨silent, finished, count, nodes, done, passing, nodesCommitted, accountsCommitted, hint, text⟩
  constructor <;>
    simpa only [keeps.calls, keeps.succeeded, keeps.written, keeps.nodes, keeps.accounts]

section

variable [Platform]

variable {summary : Summary} {nodes accounts : List Json} {reads : List Event}
  {done rest : List Batch} {batch : Batch} {cause : Failure} {tree : FileTree}

theorem truthful_nodesStopped (usable : config.isUsable)
    (verified : Verified network config summary nodes accounts reads)
    (split : nodeBatches config nodes = done ++ batch :: rest)
    (logs : ({
      stage := .nodeCountInitialized, nodes, accounts, summary := some summary, tree } :
        Session).Logs
      (reads ++ ([.called (nodeCountCall config summary.nodeCount) (.ok ())] ++
        Batch.stoppedEvents (nodesTarget config) config.gas nodes.length done batch cause))
      stopped)
    (reports : Reports config (some (.batch config.destination nodesMethod batch.first batch.last
      nodes.length cause)) stopped results) :
    Truthful config stopped results := by
  have positive := (Config.isUsable_iff.mp usable).chunkSize
  have stage : stopped.stage = .nodeCountInitialized := logs.stage_eq
  have sameNodes : stopped.nodes = nodes := logs.nodes_eq
  have none : stopped.accountsCommitted = none := logs.accountsCommitted_eq
  have front := Batch.length_front (by omega) split
  have made := verified.wrote_nodesStopped rfl logs
  have failed : (batch.call (nodesTarget config) config.gas, Except.error cause) ∈
      stopped.calls := by
    rw [verified.calls_of_logs rfl logs, Event.calls_append, Batch.calls_stoppedEvents]
    simp
  have settles := settled_nodes batch.first batch.last nodes.length cause config.destination
    stopped
  apply truthful_late reports made
  case nodesStage =>
    rw [made.nodes, stage, sameNodes, nodePlan_eq usable, split]
    exact ⟨fun late => absurd late (by decide), fun same => by simp at same⟩
  case nodesCommitted => rw [settles, sameNodes, front]
  case accountsCommitted => rw [settles, stage, none, if_neg (by decide)]
  case hint_text =>
    rw [settles, none]
    intro hint same
    cases same
    rfl
  case failed => exact ⟨fun _ => ⟨_, _, failed, .inl rfl⟩, fun _ => Option.some_ne_none _⟩
  case doneStage =>
    rw [stage]
    exact ⟨fun late => (nomatch late), fun late => absurd late.1 (by decide)⟩
  case late =>
    rw [stage]
    decide
  case passing =>
    rw [stage]
    decide
  case finished => simp [stage]
  case hint_iff => simp [settles]

theorem truthful_accountsStopped (usable : config.isUsable)
    (verified : Verified network config summary nodes accounts reads)
    (split : accountBatches config accounts = done ++ batch :: rest)
    (logs : ({
      stage := .nodesCommitted, nodes, accounts, summary := some summary, tree
      nodesCommitted := some nodes.length } : Session).Logs
      (reads ++ ([.called (nodeCountCall config summary.nodeCount) (.ok ())] ++
        (Batch.writtenEvents (nodesTarget config) config.gas nodes.length
          (nodeBatches config nodes) ++
        Batch.stoppedEvents (accountsTarget config) config.gas accounts.length done batch cause)))
      stopped)
    (reports : Reports config (some (.batch config.destination accountsMethod batch.first
      batch.last accounts.length cause)) stopped results) :
    Truthful config stopped results := by
  have positive := (Config.isUsable_iff.mp usable).chunkSize
  have stage : stopped.stage = .nodesCommitted := logs.stage_eq
  have sameNodes : stopped.nodes = nodes := logs.nodes_eq
  have sameAccounts : stopped.accounts = accounts := logs.accounts_eq
  have committed : stopped.nodesCommitted = some nodes.length := logs.nodesCommitted_eq
  have all : min config.nodesStart.toNat nodes.length +
      ((nodeBatches config nodes).flatMap Batch.records).length = nodes.length :=
    Batch.length_all (by omega) nodes _
  have front := Batch.length_front (by omega) split
  have made := verified.wrote_accountsStopped rfl logs
  have failed : (batch.call (accountsTarget config) config.gas, Except.error cause) ∈
      stopped.calls := by
    rw [verified.calls_of_logs rfl logs, Event.calls_append, Event.calls_append,
      Batch.calls_stoppedEvents]
    simp
  have settles := settled_accounts batch.first batch.last accounts.length cause
    config.destination committed
  apply truthful_late reports made
  case nodesStage =>
    rw [made.nodes, stage, sameNodes, nodePlan_eq usable]
    exact ⟨fun _ => rfl, fun _ => by decide⟩
  case doneStage =>
    rw [made.accounts, stage, sameAccounts, accountPlan_eq usable, split]
    exact ⟨fun late => (nomatch late), fun same => by simp at same⟩
  case nodesCommitted => rw [settles, sameNodes, all, committed]
  case accountsCommitted => rw [settles, stage, sameAccounts, front, if_pos (by decide)]
  case hint_text =>
    rw [settles, committed]
    intro hint same
    cases same
    rfl
  case failed => exact ⟨fun _ => ⟨_, _, failed, .inr rfl⟩, fun _ => Option.some_ne_none _⟩
  case late =>
    rw [stage]
    decide
  case passing =>
    rw [stage]
    decide
  case finished => simp [stage]
  case hint_iff => simp [settles]

theorem truthful_completed (usable : config.isUsable)
    (verified : Verified network config summary nodes accounts reads)
    (logs : ({
      stage := .done, nodes, accounts, summary := some summary, tree
      nodesCommitted := some nodes.length
      accountsCommitted := some accounts.length } : Session).Logs
      (reads ++ ([.called (nodeCountCall config summary.nodeCount) (.ok ())] ++
        (Batch.writtenEvents (nodesTarget config) config.gas nodes.length
          (nodeBatches config nodes) ++
        Batch.writtenEvents (accountsTarget config) config.gas accounts.length
          (accountBatches config accounts))))
      stopped)
    (reports : Reports config none stopped results) : Truthful config stopped results := by
  have positive := (Config.isUsable_iff.mp usable).chunkSize
  have stage : stopped.stage = .done := logs.stage_eq
  have sameNodes : stopped.nodes = nodes := logs.nodes_eq
  have sameAccounts : stopped.accounts = accounts := logs.accounts_eq
  have nodesCommitted : stopped.nodesCommitted = some nodes.length := logs.nodesCommitted_eq
  have accountsCommitted : stopped.accountsCommitted = some accounts.length :=
    logs.accountsCommitted_eq
  have allNodes : min config.nodesStart.toNat nodes.length +
      ((nodeBatches config nodes).flatMap Batch.records).length = nodes.length :=
    Batch.length_all (by omega) nodes _
  have allAccounts : min config.accountsStart.toNat accounts.length +
      ((accountBatches config accounts).flatMap Batch.records).length = accounts.length :=
    Batch.length_all (by omega) accounts _
  have made := verified.wrote_completed rfl logs
  apply truthful_late reports made
  case nodesStage =>
    rw [made.nodes, stage, sameNodes, nodePlan_eq usable]
    exact ⟨fun _ => rfl, fun _ => by decide⟩
  case doneStage =>
    rw [made.accounts, stage, sameAccounts, accountPlan_eq usable]
    exact ⟨fun _ => ⟨by decide, rfl⟩, fun _ => rfl⟩
  case nodesCommitted =>
    rw [sameNodes, allNodes]
    exact nodesCommitted
  case accountsCommitted =>
    rw [stage, sameAccounts, allAccounts, if_pos (by decide)]
    exact accountsCommitted
  case failed =>
    rw [verified.calls_of_logs rfl logs, Event.calls_append, Event.calls_append,
      Batch.calls_writtenEvents, Batch.calls_writtenEvents, Event.calls_called]
    simp
  case late =>
    rw [stage]
    decide
  case passing =>
    rw [stage]
    decide
  case finished => simp [stage]
  case hint_iff => simp [settled]
  case hint_text => simp [settled]

/-- The results of every course are true of the session in which it ends. -/
theorem Course.truthful (course : Course network config { tree } failure stopped)
    (usable : config.isUsable) (plain : network.LeavesBatches)
    (reports : Reports config failure stopped results) : Truthful config stopped results := by
  cases course with
  | refused refused logs =>
      refine truthful_early reports ?_ ?_ (settled_of_plain (refused.isBatch plain) _)
        ⟨logs.nodesCommitted_eq, logs.accountsCommitted_eq⟩ ?_
      · rw [logs.stage_eq]
        exact (by decide : Stage.start ≤ .reported)
      · simp [logs.stage_eq]
      · simp [logs.calls_of_fresh rfl, refused.calls]
  | @unread _ stage _ _ _ _ explained admitted early known logs =>
      have same : stopped.stage = stage := logs.stage_eq
      refine truthful_early reports ?_ ?_ (settled_of_plain (plain.isBatch explained) _)
        ⟨logs.nodesCommitted_eq, logs.accountsCommitted_eq⟩ ?_
      · rw [same]
        exact Nat.le_trans early (by decide)
      · rw [same]
        refine ⟨fun finished => (nomatch finished), ?_⟩
        intro finished
        rcases finished with ⟨-, rfl⟩
        exact absurd early (by decide)
      · rw [logs.calls_of_fresh rfl, Event.calls_append, calls_admission,
          calls_of_readsCollection known]
        simp
  | dry verified dry logs =>
      refine truthful_early reports ?_ ?_ rfl
        ⟨logs.nodesCommitted_eq, logs.accountsCommitted_eq⟩ ?_
      · rw [logs.stage_eq]
        exact Nat.le_refl _
      · simp [logs.stage_eq, dry]
      · simp [logs.calls_of_fresh rfl, verified.calls]
  | countRefused verified wet fails logs =>
      refine truthful_early reports ?_ ?_ (settled_of_plain (plain _ fails) _)
        ⟨logs.nodesCommitted_eq, logs.accountsCommitted_eq⟩ ?_
      · rw [logs.stage_eq]
        exact Nat.le_refl _
      · simp [wet]
      · rw [verified.calls_of_logs rfl logs, Event.calls_called]
        simp [nodeCountCall, nodeCountMethod]
  | nodesStopped verified wet split logs =>
      exact truthful_nodesStopped usable verified split logs reports
  | accountsStopped verified wet split logs =>
      exact truthful_accountsStopped usable verified split logs reports
  | completed verified wet logs =>
      exact truthful_completed usable verified logs reports

variable [Platform.PrintsAll]

end

attribute [local instance] Platform.accepting Platform.printsAll_accepting

end Migration

end SocialMigration
