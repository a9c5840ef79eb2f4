import SocialMigration.Proofs.Migration.Hint
import SocialMigration.Proofs.Migration.Truth

/-!
# Resuming

A migration is carried out in as many runs as it takes. Each run after the first starts where the
hint of the one before says, and otherwise where that one started. Over all runs every record is
written at most once and in order, no account before the last node, and a run that succeeds leaves
nothing unwritten.

The invariant ties what has been written so far to the two start indices of the next run: it is the
part of each collection before its index. Sizes of pages and batches, gas and the limit of pages in
flight do not occur in it, so they may differ from run to run.
-/

namespace SocialMigration

namespace Migration

variable {World : Type}

/-! ## Runs that follow each other -/

/-- One run of a migration with all that it meets. -/
structure Attempt (World : Type) where
  host : Host (StateM World)
  config : Config
  folder : RunFolder
  tree : FileTree
  world : World

section

variable [Platform]

namespace Attempt

/-- The outcome of a run and the session it leaves behind. -/
def ending (attempt : Attempt World) : Except Failure Results × Session :=
  Migration.ending attempt.host attempt.config attempt.folder attempt.tree attempt.world

/-- Everything that a run does and learns. -/
def events (attempt : Attempt World) : List Event :=
  attempt.ending.2.events

/-- A run that has failed, and the next one: its start indices are those of the failed run unless
the hint sets others. -/
def Precedes (previous next : Attempt World) : Prop :=
  ∃ results, previous.ending.1 = .ok results ∧ results.success = false ∧
    Settings.integerOr (hintSettings (results.resumeHint.getD [])) "NODES_START_INDEX"
      previous.config.nodesStart = .ok next.config.nodesStart ∧
    Settings.integerOr (hintSettings (results.resumeHint.getD [])) "ACCOUNTS_START_INDEX"
      previous.config.accountsStart = .ok next.config.accountsStart

/-- A run that writes, with a usable configuration, from a source that holds two collections. -/
structure Works (nodes accounts : List Json) (attempt : Attempt World) : Prop where
  usable : attempt.config.isUsable
  wet : attempt.config.dryRun = false
  serves : attempt.host.network.Serves attempt.config.source nodes accounts

/-- The events of runs one after the other. -/
def history (attempts : List (Attempt World)) : List Event :=
  attempts.flatMap events

end Attempt

end

/-! ## What one run adds -/

/-- Where a failed run leaves off: its hint, and the start indices that follow from it and from
those of the run. -/
inductive LeavesOff (nodesStart accountsStart : Nat) : Option Text → Nat → Nat → Prop where
  | unmoved : LeavesOff nodesStart accountsStart none nodesStart accountsStart
  | inNodes (nodes : Nat) : LeavesOff nodesStart accountsStart
      (some (setting "NODES_START_INDEX" nodes)) nodes accountsStart
  | inAccounts (nodes accounts : Nat) : LeavesOff nodesStart accountsStart
      (some (setting "NODES_START_INDEX" nodes ++ " " ++
        setting "ACCOUNTS_START_INDEX" accounts)) nodes accounts

/-- The settings of a hint lead to the start indices that it stands for. -/
theorem LeavesOff.next {nodesStart accountsStart nodes accounts : Nat} {hint : Option Text}
    (leaves : LeavesOff nodesStart accountsStart hint nodes accounts) {nodes' accounts' : Int}
    (nodesRead : Settings.integerOr (hintSettings (hint.getD [])) "NODES_START_INDEX" nodesStart =
      .ok nodes')
    (accountsRead : Settings.integerOr (hintSettings (hint.getD [])) "ACCOUNTS_START_INDEX"
      accountsStart = .ok accounts') :
    nodes' = nodes ∧ accounts' = accounts := by
  cases leaves with
  | unmoved =>
      exact ⟨integerOr_unset rfl (by omega) nodesRead, integerOr_unset rfl (by omega) accountsRead⟩
  | inNodes =>
      simp only [Option.getD_some, hintSettings_setting plain_nodesStart] at nodesRead accountsRead
      exact ⟨integerOr_set rfl nodesRead, integerOr_unset rfl (by omega) accountsRead⟩
  | inAccounts =>
      simp only [Option.getD_some, hintSettings_settings plain_nodesStart plain_accountsStart]
        at nodesRead accountsRead
      exact ⟨integerOr_set rfl nodesRead, integerOr_set rfl accountsRead⟩

/-- Events in which no call for accounts is made before all nodes are written, some of them by
other events before these. -/
def NodesFirst (nodes written : List Json) (events : List Event) : Prop :=
  ∀ before call outcome after, events = before ++ .called call outcome :: after →
    call.method = accountsMethod → written ++ Event.written nodesMethod before = nodes

variable {nodes written : List Json} {events front back : List Event}

theorem nodesFirst_of_calls
    (none : ∀ sent ∈ Event.calls events, sent.1.method ≠ accountsMethod) :
    NodesFirst nodes written events := by
  intro before call outcome after split ofAccounts
  refine absurd ofAccounts (none (call, outcome) ?_)
  rw [split, Event.calls_append]
  exact List.mem_append_right _ List.mem_cons_self

/-- If nodes are written only in front of some place and accounts only behind it, then all nodes
are written where the accounts begin. -/
theorem nodesFirst_of_split
    (none : ∀ sent ∈ Event.calls front, sent.1.method ≠ accountsMethod)
    (past : Event.succeeded nodesMethod back = [])
    (all : written ++ Event.written nodesMethod (front ++ back) = nodes) :
    NodesFirst nodes written (front ++ back) := by
  intro before call outcome after split ofAccounts
  have behind : ∀ part rest, back = part ++ rest → Event.written nodesMethod part = [] := by
    intro part rest same
    rw [same, Event.succeeded_append, List.append_eq_nil_iff] at past
    rw [Event.written, past.1, List.flatMap_nil]
  rw [Event.written_append, behind back [] (List.append_nil _).symm, List.append_nil] at all
  rcases List.append_eq_append_iff.mp split with ⟨more, rfl, rest⟩ | ⟨more, rfl, rest⟩
  · rw [Event.written_append, behind more _ rest, List.append_nil, all]
  · cases more with
    | nil => rwa [List.append_nil] at all
    | cons event more =>
        rcases List.cons.inj rest with ⟨rfl, -⟩
        refine absurd ofAccounts (none (call, outcome) ?_)
        rw [Event.calls_append]
        exact List.mem_append_right _ List.mem_cons_self

/-- What a run adds to what is written before its start indices: it extends the written parts of
both collections up to other indices, and writes no account before the last node. -/
structure Advances (nodes accounts : List Json) (config : Config) (session : Session)
    (nodesNext accountsNext : Nat) : Prop where
  nodesWritten : nodes.take config.nodesStart.toNat ++ session.written nodesMethod =
    nodes.take nodesNext
  accountsWritten : accounts.take config.accountsStart.toNat ++ session.written accountsMethod =
    accounts.take accountsNext
  nodesFirst : NodesFirst nodes (nodes.take config.nodesStart.toNat) session.trace

variable {network : Network (StateM World)} {config : Config} {tree : FileTree}
  {accounts : List Json} {failure : Option Failure} {stopped later : Session}

theorem Advances.keep {nodesNext accountsNext : Nat}
    (advances : Advances nodes accounts config stopped nodesNext accountsNext)
    (keeps : Keeps stopped later) :
    Advances nodes accounts config later nodesNext accountsNext where
  nodesWritten := by
    rw [keeps.written]
    exact advances.nodesWritten
  accountsWritten := by
    rw [keeps.written]
    exact advances.accountsWritten
  nodesFirst := keeps.trace.symm ▸ advances.nodesFirst

theorem advances_early (failed : ∀ sent ∈ stopped.calls,
      sent.1.method = nodeCountMethod ∧ sent.2 ≠ .ok ()) :
    Advances nodes accounts config stopped config.nodesStart.toNat config.accountsStart.toNat := by
  have silent : ∀ method, stopped.written method = [] := by
    intro method
    rw [Session.written, Event.written, Event.succeeded_of_failed fun sent member =>
      (failed sent member).2]
    rfl
  refine ⟨by rw [silent, List.append_nil], by rw [silent, List.append_nil], ?_⟩
  apply nodesFirst_of_calls
  intro sent member
  rw [← Session.calls_eq] at member
  rw [(failed sent member).1]
  exact methods_apart.2.1

/-- The written part of a collection, with the records of the batches in front of one, is the part
before that. -/
theorem take_append_front {size start : Nat} {records : List Json} {done rest : List Batch}
    {batch : Batch} (positive : 0 < size)
    (split : Batch.all size records start = done ++ batch :: rest) :
    records.take start ++ done.flatMap Batch.records = records.take batch.first := by
  have bounds : start ≤ batch.first ∧ batch.first < records.length :=
    Batch.first_lt_of_mem positive (by rw [split]; simp)
  have front : records.take start = (records.take batch.first).take start := by
    rw [List.take_take, Nat.min_eq_left bounds.1]
  rw [Batch.flatMap_records_front positive split, front, List.take_append_drop]

theorem take_append_all {size : Nat} (positive : 0 < size) (records : List Json) (start : Nat) :
    records.take start ++ (Batch.all size records start).flatMap Batch.records =
      records.take records.length := by
  rw [Batch.flatMap_records_all positive, List.take_append_drop, List.take_length]

section

variable [Platform]

/-- Up to the last node, no call is for accounts. -/
theorem calls_nodes_apart {summary : Summary} {reads : List Event} {done : List Batch}
    {total : Nat} (verified : Verified network config summary nodes accounts reads) :
    ∀ sent ∈ Event.calls (reads ++ ([.called (nodeCountCall config summary.nodeCount) (.ok ())] ++
        Batch.writtenEvents (nodesTarget config) config.gas total done)),
      sent.1.method ≠ accountsMethod := by
  intro sent member
  simp only [Event.calls_append, verified.calls, Event.calls_called, Batch.calls_writtenEvents,
    List.nil_append, List.mem_append, List.mem_singleton, List.mem_map] at member
  rcases member with rfl | ⟨_, ⟨batch, -, rfl⟩, rfl⟩
  · exact methods_apart.2.1
  · exact methods_apart.2.2

/-- A run that has written all nodes advances to their end, and as far in the accounts as it has
written them behind that. -/
theorem Wrote.advances {summary : Summary} {reads back : List Event} {done : List Batch}
    {start : Session} {accountsNext : Nat}
    (wrote : Wrote config stopped (nodeBatches config nodes) done) (usable : config.isUsable)
    (verified : Verified network config summary nodes accounts reads)
    (fresh : start.journal = [])
    (logs : start.Logs
      (reads ++ ([.called (nodeCountCall config summary.nodeCount) (.ok ())] ++
        (Batch.writtenEvents (nodesTarget config) config.gas nodes.length
          (nodeBatches config nodes) ++ back))) stopped)
    (past : Event.succeeded nodesMethod back = [])
    (accountsWritten : accounts.take config.accountsStart.toNat ++ done.flatMap Batch.records =
      accounts.take accountsNext) :
    Advances nodes accounts config stopped nodes.length accountsNext := by
  have positive := (Config.isUsable_iff.mp usable).chunkSize
  have nodesWritten : nodes.take config.nodesStart.toNat ++ stopped.written nodesMethod =
      nodes.take nodes.length := by
    rw [wrote.nodes_written]
    exact take_append_all (by omega) ..
  have traced : stopped.trace = reads ++ ([.called (nodeCountCall config summary.nodeCount)
      (.ok ())] ++ Batch.writtenEvents (nodesTarget config) config.gas nodes.length
        (nodeBatches config nodes)) ++ back := by
    rw [logs.trace_of_fresh fresh]
    simp only [List.append_assoc]
  refine ⟨nodesWritten, ?_, ?_⟩
  · rwa [wrote.accounts_written]
  · rw [traced]
    apply nodesFirst_of_split (calls_nodes_apart verified) past
    rw [← traced, ← Session.written_eq, nodesWritten, List.take_length]

/-- Every run that writes advances, and its failure leaves off where it has advanced to. -/
theorem Course.advances (course : Course network config { tree } failure stopped)
    (usable : config.isUsable) (wet : config.dryRun = false)
    (serves : network.Serves config.source nodes accounts) :
    ∃ nodesNext accountsNext, Advances nodes accounts config stopped nodesNext accountsNext ∧
      (failure = none → nodesNext = nodes.length ∧ accountsNext = accounts.length) ∧
      (failure ≠ none → LeavesOff config.nodesStart.toNat config.accountsStart.toNat
        (settled failure stopped).2 nodesNext accountsNext) := by
  have positive := (Config.isUsable_iff.mp usable).chunkSize
  have plain : network.LeavesBatches := serves.plain
  cases course with
  | refused refused logs =>
      refine ⟨_, _, advances_early ?_, (absurd · (Option.some_ne_none _)), fun _ => ?_⟩
      · simp [logs.calls_of_fresh rfl, refused.calls]
      · rw [settled_of_plain (refused.isBatch plain)]
        exact .unmoved
  | unread explained admitted early known logs =>
      refine ⟨_, _, advances_early ?_, (absurd · (Option.some_ne_none _)), fun _ => ?_⟩
      · rw [logs.calls_of_fresh rfl, Event.calls_append, calls_admission,
          calls_of_readsCollection known]
        simp
      · rw [settled_of_plain (plain.isBatch explained)]
        exact .unmoved
  | dry verified dry logs => exact absurd dry (by simp [wet])
  | countRefused verified wet fails logs =>
      refine ⟨_, _, advances_early ?_, (absurd · (Option.some_ne_none _)), fun _ => ?_⟩
      · rw [verified.calls_of_logs rfl logs, Event.calls_called]
        simp [nodeCountCall, nodeCountMethod]
      · rw [settled_of_plain (plain _ fails)]
        exact .unmoved
  | @nodesStopped summary nodes' _ reads done rest batch cause _ verified wet split logs =>
      rcases verified.eq usable serves with ⟨rfl, rfl⟩
      have wrote := verified.wrote_nodesStopped rfl logs
      refine ⟨batch.first, config.accountsStart.toNat, ⟨?_, ?_, ?_⟩,
        (absurd · (Option.some_ne_none _)), fun _ => ?_⟩
      · rw [wrote.nodes_written]
        exact take_append_front (by omega) split
      · rw [wrote.accounts_written]
        exact List.append_nil _
      · have traced : stopped.trace = reads ++ ([.called (nodeCountCall config summary.nodeCount)
            (.ok ())] ++ Batch.writtenEvents (nodesTarget config) config.gas nodes'.length done) ++
            Batch.events (nodesTarget config) config.gas nodes'.length (.error cause) batch := by
          rw [logs.trace_of_fresh rfl, Batch.stoppedEvents]
          simp only [List.append_assoc]
        apply nodesFirst_of_calls
        intro sent member
        rw [traced, Event.calls_append, List.mem_append] at member
        rcases member with front | last
        · exact calls_nodes_apart verified sent front
        · rcases List.mem_singleton.mp last with rfl
          exact methods_apart.2.2
      · exact .inNodes batch.first
  | @accountsStopped _ nodes' accounts' _ done rest batch cause _ verified wet split logs =>
      rcases verified.eq usable serves with ⟨rfl, rfl⟩
      have wrote := verified.wrote_accountsStopped rfl logs
      refine ⟨nodes'.length, batch.first, ?_, (absurd · (Option.some_ne_none _)), fun _ => ?_⟩
      · apply wrote.advances usable verified rfl logs
        · rw [Batch.succeeded_stoppedEvents]
          rfl
        · exact take_append_front (by omega) split
      · rw [settled_accounts _ _ _ _ _ logs.nodesCommitted_eq]
        exact .inAccounts ..
  | @completed _ nodes' accounts' _ _ verified wet logs =>
      rcases verified.eq usable serves with ⟨rfl, rfl⟩
      have wrote := verified.wrote_completed rfl logs
      refine ⟨nodes'.length, accounts'.length, ?_, fun _ => ⟨rfl, rfl⟩,
        fun failed => absurd rfl failed⟩
      apply wrote.advances usable verified rfl logs
      · rw [Batch.succeeded_writtenEvents]
        rfl
      · exact take_append_all (by omega) ..

end

/-! ## What all runs have written -/

/-- The invariant of resuming: what events have written is the part of each collection before an
index, and no account before the last node. -/
structure Reached (nodes accounts : List Json) (events : List Event)
    (nodesNext accountsNext : Nat) : Prop where
  nodesWritten : Event.written nodesMethod events = nodes.take nodesNext
  accountsWritten : Event.written accountsMethod events = accounts.take accountsNext
  nodesFirst : NodesFirst nodes [] events

theorem reached_nil (nodes accounts : List Json) : Reached nodes accounts [] 0 0 where
  nodesWritten := rfl
  accountsWritten := rfl
  nodesFirst := nodesFirst_of_calls (by simp)

/-- Printed lines may be left out in front of a place where no account is written too early. -/
theorem NodesFirst.of_trace (ordered : NodesFirst nodes written (Event.trace events)) :
    NodesFirst nodes written events := by
  intro before call outcome after split ofAccounts
  have split' : Event.trace events =
      Event.trace before ++ .called call outcome :: Event.trace after := by
    rw [split, Event.trace_append, Event.trace_cons]
    rfl
  have all := ordered _ _ _ _ split' ofAccounts
  rwa [Event.written_trace] at all

theorem NodesFirst.append {more : List Event} (front : NodesFirst nodes [] events)
    (back : NodesFirst nodes (Event.written nodesMethod events) more) :
    NodesFirst nodes [] (events ++ more) := by
  intro before call outcome after split ofAccounts
  rw [List.nil_append]
  rcases List.append_eq_append_iff.mp split with ⟨part, rfl, rest⟩ | ⟨part, rfl, rest⟩
  · rw [Event.written_append]
    exact back part call outcome after rest ofAccounts
  · cases part with
    | nil =>
        have all := back [] call outcome after (by simpa using rest.symm) ofAccounts
        simpa using all
    | cons event part =>
        rcases List.cons.inj rest with ⟨rfl, -⟩
        exact front before call outcome part rfl ofAccounts

/-- A run that starts at the indices that earlier events have reached goes on to its own. -/
theorem Reached.advance {prior : List Event} {session : Session} {nodesNext accountsNext : Nat}
    (reached : Reached nodes accounts prior config.nodesStart.toNat config.accountsStart.toNat)
    (advances : Advances nodes accounts config session nodesNext accountsNext) :
    Reached nodes accounts (prior ++ session.events) nodesNext accountsNext where
  nodesWritten := by
    rw [Event.written_append, reached.nodesWritten]
    exact advances.nodesWritten
  accountsWritten := by
    rw [Event.written_append, reached.accountsWritten]
    exact advances.accountsWritten
  nodesFirst := reached.nodesFirst.append (by
    rw [reached.nodesWritten]
    exact advances.nodesFirst.of_trace)

section

variable [Platform] [Platform.PrintsAll]

/-- One run after others: it goes on where they have left off, and either succeeds with everything
written or hints at where it leaves off. -/
theorem Attempt.Works.reached {attempt : Attempt World} {prior : List Event} {i j : Nat}
    (works : attempt.Works nodes accounts) (reached : Reached nodes accounts prior i j)
    (nodesStart : attempt.config.nodesStart = i)
    (accountsStart : attempt.config.accountsStart = j) :
    ∃ nodesNext accountsNext,
      Reached nodes accounts (prior ++ attempt.events) nodesNext accountsNext ∧
      ∀ results, attempt.ending.1 = .ok results →
        (results.success → nodesNext = nodes.length ∧ accountsNext = accounts.length) ∧
        (results.success = false → LeavesOff i j results.resumeHint nodesNext accountsNext) := by
  rcases ending_course attempt.host attempt.folder attempt.tree attempt.world works.usable with
    ⟨failure, stopped, -, course, keeps, reports⟩
  rcases course.advances works.usable works.wet works.serves with
    ⟨nodesNext, accountsNext, advances, finished, failed⟩
  rw [nodesStart, accountsStart, Int.toNat_natCast, Int.toNat_natCast] at failed
  refine ⟨nodesNext, accountsNext, ?_, ?_⟩
  · refine Reached.advance ?_ (advances.keep keeps)
    rwa [nodesStart, accountsStart, Int.toNat_natCast, Int.toNat_natCast]
  · intro results outcome
    have report := reports results outcome
    refine ⟨fun success => finished (report.success_iff.mp success), fun failing => ?_⟩
    rw [report.resumeHint]
    apply failed
    intro none
    rw [report.success_iff.mpr none] at failing
    exact nomatch failing

/-- The runs of a migration from one source: each works, the first starts at the beginning, and each
after it where the one before has left off. -/
structure Campaign (nodes accounts : List Json) (attempts : List (Attempt World)) : Prop where
  works : ∀ attempt ∈ attempts, attempt.Works nodes accounts
  begins : ∀ attempt ∈ attempts.head?,
    attempt.config.nodesStart = 0 ∧ attempt.config.accountsStart = 0
  follows : attempts.IsChain Attempt.Precedes

theorem reached_of_chain {attempts : List (Attempt World)} {prior : List Event} {i j : Nat}
    (works : ∀ attempt ∈ attempts, attempt.Works nodes accounts)
    (starts : ∀ attempt ∈ attempts.head?,
      attempt.config.nodesStart = i ∧ attempt.config.accountsStart = j)
    (follows : attempts.IsChain Attempt.Precedes) (reached : Reached nodes accounts prior i j) :
    ∃ nodesNext accountsNext,
      Reached nodes accounts (prior ++ Attempt.history attempts) nodesNext accountsNext ∧
      ∀ last ∈ attempts.getLast?, ∀ results, last.ending.1 = .ok results → results.success →
        nodesNext = nodes.length ∧ accountsNext = accounts.length := by
  induction attempts generalizing prior i j with
  | nil =>
      refine ⟨i, j, ?_, by simp⟩
      rwa [Attempt.history, List.flatMap_nil, List.append_nil]
  | cons attempt rest ih =>
      rcases starts attempt rfl with ⟨nodesStart, accountsStart⟩
      rcases (works attempt List.mem_cons_self).reached reached nodesStart accountsStart with
        ⟨nodesNext, accountsNext, later, ends⟩
      cases rest with
      | nil =>
          refine ⟨nodesNext, accountsNext, ?_, ?_⟩
          · simpa [Attempt.history] using later
          · intro _ same results outcome success
            cases same
            exact (ends results outcome).1 success
      | cons next rest =>
          rcases List.isChain_cons_cons.mp follows with ⟨precedes, chain⟩
          rcases precedes with ⟨results, outcome, failed, nodesRead, accountsRead⟩
          have leaves := (ends results outcome).2 failed
          rw [nodesStart] at nodesRead
          rw [accountsStart] at accountsRead
          have starts' := leaves.next nodesRead accountsRead
          have onwards := ih (fun attempt member => works attempt (List.mem_cons_of_mem _ member))
            (by
              intro attempt first
              cases first
              exact starts') chain later
          simpa [Attempt.history] using onwards

/-- However many runs a migration takes and wherever they stop: at every moment what has been
written is the front of each collection, once and in order, no call for accounts is made before all
nodes are written, and a last run that succeeds leaves nothing unwritten. -/
theorem resumed_runs_write_once {attempts : List (Attempt World)}
    (campaign : Campaign nodes accounts attempts) :
    (∀ moment, moment <+: Attempt.history attempts →
      Event.written nodesMethod moment <+: nodes ∧
      Event.written accountsMethod moment <+: accounts) ∧
    (∀ before call outcome after,
      Attempt.history attempts = before ++ .called call outcome :: after →
        call.method = accountsMethod → Event.written nodesMethod before = nodes) ∧
    (∀ last ∈ attempts.getLast?, ∀ results, last.ending.1 = .ok results → results.success →
      Event.written nodesMethod (Attempt.history attempts) = nodes ∧
      Event.written accountsMethod (Attempt.history attempts) = accounts) := by
  have chain := reached_of_chain campaign.works campaign.begins campaign.follows
    (reached_nil nodes accounts)
  rcases chain with ⟨i, j, reached, ends⟩
  rw [List.nil_append] at reached
  refine ⟨?_, reached.nodesFirst, ?_⟩
  · intro moment front
    rcases front with ⟨rest, split⟩
    have nodesFront := reached.nodesWritten ▸ List.take_prefix i nodes
    have accountsFront := reached.accountsWritten ▸ List.take_prefix j accounts
    rw [← split, Event.written_append] at nodesFront accountsFront
    exact ⟨(List.prefix_append _ _).trans nodesFront,
      (List.prefix_append _ _).trans accountsFront⟩
  · intro last isLast results outcome success
    rcases ends last isLast results outcome success with ⟨rfl, rfl⟩
    rw [reached.nodesWritten, reached.accountsWritten, List.take_length, List.take_length]
    exact ⟨rfl, rfl⟩

end

attribute [local instance] Platform.accepting Platform.printsAll_accepting

/-- What a run ends with as far as the next one depends on it: whether it succeeded, and its hint.
-/
def Attempt.verdict? (attempt : Attempt World) : Option (Bool × Option Text) :=
  attempt.ending.1.toOption.map fun results => (results.success, results.resumeHint)

theorem Attempt.results_of_verdict? {attempt : Attempt World} {success : Bool} {hint : Option Text}
    (verdict : attempt.verdict? = some (success, hint)) :
    ∃ results, attempt.ending.1 = .ok results ∧ results.success = success ∧
      results.resumeHint = hint := by
  rcases results_of_seen verdict with ⟨results, outcome, seen⟩
  rcases Prod.mk.inj seen with ⟨rfl, rfl⟩
  exact ⟨results, outcome, rfl, rfl⟩

theorem Attempt.Precedes.of_verdict? {previous next : Attempt World} {hint : Option Text}
    (verdict : previous.verdict? = some (false, hint))
    (nodesRead : Settings.integerOr (hintSettings (hint.getD [])) "NODES_START_INDEX"
      previous.config.nodesStart = .ok next.config.nodesStart)
    (accountsRead : Settings.integerOr (hintSettings (hint.getD [])) "ACCOUNTS_START_INDEX"
      previous.config.accountsStart = .ok next.config.accountsStart) :
    previous.Precedes next := by
  rcases Attempt.results_of_verdict? verdict with ⟨results, outcome, failed, rfl⟩
  exact ⟨results, outcome, failed, nodesRead, accountsRead⟩

/-- A run of the small migration from start indices on, in which a number of calls go through. -/
def pairwiseAttempt (nodesStart accountsStart : Int) (calls : Nat) : Attempt Nat where
  host := pairwiseHost
  config := { pairwise with nodesStart, accountsStart }
  folder := runFolder pairwise ⟨2024, 1, 1, 0, 0, 0, 0⟩
  tree := ⟨[], []⟩
  world := calls

theorem pairwise_campaign :
    Campaign someNodes someAccounts
      [pairwiseAttempt 0 0 2, pairwiseAttempt 2 0 2, pairwiseAttempt 3 0 9] where
  works := by
    simp only [List.forall_mem_cons, List.not_mem_nil, false_implies, implies_true, and_true]
    refine ⟨?_, ?_, ?_⟩
    all_goals exact ⟨by decide, rfl, Network.serves_ofLedger ..⟩
  begins := by
    intro _ same
    cases same
    exact ⟨rfl, rfl⟩
  follows := by
    have inNodes : (pairwiseAttempt 0 0 2).verdict? =
        some (false, some (Text.ofString "NODES_START_INDEX=2")) := by
      decide +kernel
    have inAccounts : (pairwiseAttempt 2 0 2).verdict? =
        some (false, some (Text.ofString "NODES_START_INDEX=3 ACCOUNTS_START_INDEX=0")) := by
      decide +kernel
    exact .cons_cons (.of_verdict? inNodes rfl rfl)
      (.cons_cons (.of_verdict? inAccounts rfl rfl) (.singleton _))

/-- The first run stops in the nodes, the second in the accounts, and the third finishes. -/
theorem resumed_runs_write_once_pairwise :
    let attempts := [pairwiseAttempt 0 0 2, pairwiseAttempt 2 0 2, pairwiseAttempt 3 0 9]
    Campaign someNodes someAccounts attempts ∧
      Event.written nodesMethod (Attempt.history attempts) = someNodes ∧
      Event.written accountsMethod (Attempt.history attempts) = someAccounts := by
  intro attempts
  have finished : (pairwiseAttempt 3 0 9).verdict? = some (true, none) := by decide +kernel
  rcases Attempt.results_of_verdict? finished with ⟨results, outcome, success, -⟩
  rcases resumed_runs_write_once pairwise_campaign with ⟨-, -, complete⟩
  exact ⟨pairwise_campaign, complete (pairwiseAttempt 3 0 9) rfl results outcome success⟩

end Migration

end SocialMigration
