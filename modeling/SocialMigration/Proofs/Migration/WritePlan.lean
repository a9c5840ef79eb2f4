import SocialMigration.Proofs.Migration.Ending

/-!
# The plan of writes

What a run is to write follows from its configuration and from what it has read: the node count,
the nodes in batches, the accounts in batches. The calls of a run are this plan up to the first call
that fails, and they are all of it exactly if the run succeeds.
-/

namespace SocialMigration

namespace Migration

variable {World : Type} {network : Network (StateM World)} {config : Config}

/-- The calls that write a collection from a start index on. -/
def collectionPlan (config : Config) (method key : Text) (start : Int) (records : List Json) :
    List Call :=
  (Progression.below start.toNat config.chunkSize.toNat records.length).map fun offset =>
    { contract := config.destination
      method
      arguments := .obj [(key, .arr ((records.drop offset).take config.chunkSize.toNat))]
      gas := config.gas }

/-- The calls that write nodes. -/
def nodePlan (config : Config) (nodes : List Json) : List Call :=
  collectionPlan config "genesis_init_nodes" "nodes" config.nodesStart nodes

/-- The calls that write accounts. -/
def accountPlan (config : Config) (accounts : List Json) : List Call :=
  collectionPlan config "genesis_init_accounts" "accounts" config.accountsStart accounts

/-- The calls of a run that nothing stops. -/
def writePlan (config : Config) (count : Nat) (nodes accounts : List Json) : List Call :=
  nodeCountCall config count :: nodePlan config nodes ++ accountPlan config accounts

theorem nodePlan_eq (usable : config.isUsable) (nodes : List Json) :
    nodePlan config nodes =
      (nodeBatches config nodes).map (Batch.call (nodesTarget config) config.gas) := by
  have size := (Config.isUsable_iff.mp usable).chunkSize
  rw [nodeBatches, Batch.all_eq_map (by omega), List.map_map]
  rfl

theorem accountPlan_eq (usable : config.isUsable) (accounts : List Json) :
    accountPlan config accounts =
      (accountBatches config accounts).map (Batch.call (accountsTarget config) config.gas) := by
  have size := (Config.isUsable_iff.mp usable).chunkSize
  rw [accountBatches, Batch.all_eq_map (by omega), List.map_map]
  rfl

theorem calls_admission (config : Config) : Event.calls (admission config) = [] := rfl

theorem calls_of_readsCollection {reads : List Event}
    (known : ∀ event ∈ reads, ReadsCollection config event) : Event.calls reads = [] := by
  apply Event.calls_of_reads
  intro event member
  rcases known event member with ⟨method, -, ofMethod⟩
  exact ofMethod.sent?

section

variable [Platform]

theorem Refused.calls {trace : List Event} {failure : Failure}
    (refused : Refused network config trace failure) : Event.calls trace = [] := by
  cases refused <;> rfl

theorem Verified.calls {summary : Summary} {nodes accounts : List Json} {trace : List Event}
    (verified : Verified network config summary nodes accounts trace) :
    Event.calls trace = [] := by
  rcases verified.read with ⟨nodeReads, accountReads, nodesCollected, accountsCollected, rfl⟩
  simp only [Event.calls_append, calls_admission, List.nil_append, List.append_eq_nil_iff]
  exact ⟨calls_of_readsCollection (nodesCollected.reads nodeCountKnown nodesKnown),
    calls_of_readsCollection (accountsCollected.reads accountCountKnown accountsKnown)⟩

/-! ## The calls of a course -/

/-- Whether calls are the plan for what has been verified in a session. -/
def IsPlanOf (network : Network (StateM World)) (config : Config) (session : Session)
    (plan : List Call) : Prop :=
  ∃ summary reads, Verified network config summary session.nodes session.accounts reads ∧
    reads <+: session.trace ∧
    plan = writePlan config summary.nodeCount session.nodes session.accounts

/-- What a course calls: nothing, or its plan up to a call that fails, or all of its plan. -/
inductive Called (network : Network (StateM World)) (config : Config) (session : Session) :
    Option Failure → Prop where
  | nothing {failure : Option Failure} :
      session.calls = [] → (failure = none → config.dryRun = true) →
      Called network config session failure
  | upTo {failure : Failure} {plan : List Call} (done : List Call) (call : Call)
      (rest : List Call) (cause : Failure) :
      config.dryRun = false → IsPlanOf network config session plan → plan = done ++ call :: rest →
      session.calls = done.map (·, .ok ()) ++ [(call, .error cause)] →
      Called network config session (some failure)
  | all {plan : List Call} :
      config.dryRun = false → IsPlanOf network config session plan →
      session.calls = plan.map (·, .ok ()) →
      Called network config session none

theorem Verified.calls_of_logs {summary : Summary} {nodes accounts : List Json}
    {start later : Session} {reads more : List Event}
    (verified : Verified network config summary nodes accounts reads)
    (fresh : start.journal = []) (logs : start.Logs (reads ++ more) later) :
    later.calls = Event.calls more := by
  rw [logs.calls_of_fresh fresh, Event.calls_append, verified.calls, List.nil_append]

/-- What was verified at the start of a session fixes its plan, and its calls are those after it. -/
theorem Verified.plan {summary : Summary} {start later : Session} {reads more : List Event}
    (verified : Verified network config summary start.nodes start.accounts reads)
    (fresh : start.journal = []) (logs : start.Logs (reads ++ more) later) :
    IsPlanOf network config later
        (writePlan config summary.nodeCount start.nodes start.accounts) ∧
      later.calls = Event.calls more := by
  constructor
  · refine ⟨summary, reads, ?_, ?_, ?_⟩
    · rwa [logs.nodes_eq, logs.accounts_eq]
    · rw [logs.trace_of_fresh fresh]
      exact List.prefix_append ..
    · rw [logs.nodes_eq, logs.accounts_eq]
  · exact verified.calls_of_logs fresh logs

/-- The calls of a course. The batches in front of one that fails are those of the plan. -/
theorem Course.called {tree : FileTree} {failure : Option Failure} {later : Session}
    (course : Course network config { tree } failure later) (usable : config.isUsable) :
    Called network config later failure := by
  cases course with
  | refused refused logs =>
      have none := (logs.calls_of_fresh rfl).trans refused.calls
      exact .nothing none (fun stopped => nomatch stopped)
  | unread explained admitted early known logs =>
      refine .nothing ?_ (fun stopped => nomatch stopped)
      rw [logs.calls_of_fresh rfl, Event.calls_append, calls_admission,
        calls_of_readsCollection known]
      rfl
  | dry verified dry logs =>
      exact .nothing ((logs.calls_of_fresh rfl).trans verified.calls) fun _ => dry
  | countRefused verified wet fails logs =>
      rcases Verified.plan verified rfl logs with ⟨planned, made⟩
      exact .upTo [] _ _ _ wet planned rfl made
  | @nodesStopped summary _ accounts _ done rest batch cause _ verified wet split logs =>
      rcases Verified.plan verified rfl logs with ⟨planned, made⟩
      refine .upTo
        (nodeCountCall config summary.nodeCount ::
          done.map (Batch.call (nodesTarget config) config.gas))
        (batch.call (nodesTarget config) config.gas)
        (rest.map (Batch.call (nodesTarget config) config.gas) ++ accountPlan config accounts)
        cause wet planned ?_ ?_
      · rw [writePlan, nodePlan_eq usable, split, List.map_append, List.map_cons, List.cons_append,
          List.append_assoc]
        rfl
      · rw [made, Event.calls_append, Batch.calls_stoppedEvents]
        rfl
  | @accountsStopped summary nodes _ _ done rest batch cause _ verified wet split logs =>
      rcases Verified.plan verified rfl logs with ⟨planned, made⟩
      refine .upTo
        (nodeCountCall config summary.nodeCount :: nodePlan config nodes ++
          done.map (Batch.call (accountsTarget config) config.gas))
        (batch.call (accountsTarget config) config.gas)
        (rest.map (Batch.call (accountsTarget config) config.gas)) cause wet planned ?_ ?_
      · rw [writePlan, accountPlan_eq usable, split, List.map_append, List.map_cons,
          List.append_assoc]
      · rw [made, Event.calls_append, Event.calls_append, Batch.calls_writtenEvents,
          Batch.calls_stoppedEvents, nodePlan_eq usable, List.map_append, List.append_assoc]
        rfl
  | completed verified wet logs =>
      rcases Verified.plan verified rfl logs with ⟨planned, made⟩
      refine .all wet planned ?_
      rw [made, Event.calls_append, Event.calls_append, Batch.calls_writtenEvents,
        Batch.calls_writtenEvents, writePlan, nodePlan_eq usable, accountPlan_eq usable,
        List.map_append]
      rfl

variable {session stopped later : Session} {failure : Option Failure} {plan : List Call}

theorem IsPlanOf.ne_nil (planned : IsPlanOf network config session plan) : plan ≠ [] := by
  rcases planned with ⟨summary, reads, -, -, rfl⟩
  exact List.cons_ne_nil _ _

theorem IsPlanOf.keep (planned : IsPlanOf network config stopped plan)
    (keeps : Keeps stopped later) : IsPlanOf network config later plan := by
  rcases planned with ⟨summary, reads, verified, front, same⟩
  refine ⟨summary, reads, ?_, ?_, ?_⟩
  · rwa [keeps.nodes, keeps.accounts]
  · rwa [keeps.trace]
  · rwa [keeps.nodes, keeps.accounts]

theorem Called.keep (called : Called network config stopped failure)
    (keeps : Keeps stopped later) : Called network config later failure := by
  have same := keeps.calls
  cases called with
  | nothing silent dry => exact .nothing (same.trans silent) dry
  | upTo done call rest cause wet planned split made =>
      exact .upTo done call rest cause wet (planned.keep keeps) split (same.trans made)
  | all wet planned made => exact .all wet (planned.keep keeps) (same.trans made)

theorem Called.dropLast (called : Called network config session failure) :
    ∀ sent ∈ session.calls.dropLast, sent.2 = .ok () := by
  cases called with
  | nothing silent _ => simp [silent]
  | upTo done call rest cause wet planned split made => simp [made]
  | all wet planned made =>
      intro sent member
      rw [made] at member
      rcases List.mem_map.mp ((List.dropLast_sublist _).subset member) with ⟨call, -, rfl⟩
      rfl

variable [Platform.PrintsAll]

end

attribute [local instance] Platform.accepting Platform.printsAll_accepting

end Migration

end SocialMigration
