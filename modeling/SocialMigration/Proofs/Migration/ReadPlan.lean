import SocialMigration.Proofs.Migration.Phases
import SocialMigration.Proofs.Migration.Prediction
import SocialMigration.Proofs.Page.Asked
import SocialMigration.Proofs.Page.Reassembly

/-!
# What a run reads

A run reads in six phases: the status of the source, that of the destination, and then each
collection, its reported size before its pages. It follows them up to somewhere, whatever the other
side does, and does not read after it has begun to write.
-/

namespace SocialMigration

open scoped List

namespace Migration

open Precondition (statusQuery)

variable {World : Type} {network : Network (StateM World)} {config : Config}
  {session later : Session} {world : World}

/-- The phases of the preconditions. -/
def admissionPhases (config : Config) : List Phase :=
  [⟨[statusQuery config.source], (· = "ReadOnly")⟩,
    ⟨[statusQuery config.destination], (· = "Genesis")⟩]

/-- The phase in which the source reports a size. -/
def countPhase (config : Config) (method : Text) (count : Nat) : Phase :=
  ⟨[countQuery config method], (· = .nat count)⟩

/-- The phase in which the source hands out the pages of a collection of a size. -/
def pagesPhase (config : Config) (method : Text) (count : Nat) : Phase :=
  ⟨Page.queries config.source method count config.pageSize.toNat,
    fun answer => ∃ items, answer = .arr items⟩

/-- The phases in which a collection is read if the source reports a size for it. -/
def collectionPhases (config : Config) (countMethod pageMethod : Text) (count : Nat) : List Phase :=
  [countPhase config countMethod count, pagesPhase config pageMethod count]

/-- The phases in which a migration reads if the source reports two sizes. -/
def readPhases (config : Config) (nodeCount accountCount : Nat) : List Phase :=
  admissionPhases config ++ (collectionPhases config "get_node_count" "get_nodes" nodeCount ++
    collectionPhases config "get_account_count" "get_accounts" accountCount)

/-- The number of phases that are completed when a stage is reached. -/
def phasesRead : Stage → Nat
  | .start => 0
  | .preconditionsOk => 2
  | .nodesFetched => 4
  | _ => 6

/-! ## Single phases -/

theorem completed_exchange {query : Query} {accepts : Json → Prop} {answer : Json}
    (accepted : accepts answer) :
    Phase.Completed ⟨[query], accepts⟩ (query.exchange (.ok answer)) where
  asked := rfl
  answered := by
    intro query' member
    rcases List.mem_singleton.mp member with rfl
    exact ⟨answer, by simp [Query.exchange], accepted⟩

theorem begun_exchange (query : Query) (accepts : Json → Prop) (ahead : List Phase)
    (outcome : Except Failure Json) :
    Follows (⟨[query], accepts⟩ :: ahead) 0 (query.exchange outcome) :=
  .begun (List.prefix_refl [query])

/-- Fetched pages complete the second phase of their collection. -/
theorem completed_fetched (positive : 0 < config.pageSize.toNat) {method : Text} {count : Nat}
    {arrivals : List (Page × List Json)} {trace : List Event}
    (fetched : Page.Fetched network config.source method (Page.all count config.pageSize.toNat)
      arrivals trace) :
    (pagesPhase config method count).Completed trace where
  asked := fetched.asked.trans (Page.map_query_all _ _ _ positive)
  answered := by
    intro query member
    rw [pagesPhase, ← Page.map_query_all _ _ _ positive, ← fetched.complete, List.map_map] at member
    rcases List.mem_map.mp member with ⟨arrival, arrived, rfl⟩
    have answer := fetched.answered.mem_iff.mpr (List.mem_map_of_mem arrived)
    rcases List.mem_filterMap.mp answer with ⟨event, found, same⟩
    cases event with
    | answered query outcome =>
        rcases Prod.mk.inj (Option.some.inj same) with ⟨rfl, rfl⟩
        exact ⟨_, found, arrival.2, rfl⟩
    | _ => cases same

/-! ## The steps that read -/

/-- A precondition that is not met stops reading in one of the first two phases. -/
theorem Refused.follows [Platform] {trace : List Event} {failure : Failure}
    (refused : Refused network config trace failure) (ahead : List Phase) :
    ∃ completed, Follows (admissionPhases config ++ ahead) completed trace := by
  cases refused with
  | sourceUnknown => exact ⟨0, begun_exchange ..⟩
  | source => exact ⟨0, begun_exchange ..⟩
  | destinationUnknown => exact ⟨1, .completed (completed_exchange rfl) (begun_exchange ..)⟩
  | destination => exact ⟨1, .completed (completed_exchange rfl) (begun_exchange ..)⟩

theorem follows_admission (config : Config) :
    Follows (admissionPhases config) 2 (admission config) :=
  .pair (completed_exchange rfl) (completed_exchange rfl)

variable {countMethod pageMethod : Text}

theorem Collected.follows (usable : config.isUsable) {count : Nat} {records : List Json}
    {trace : List Event}
    (collected : Collected network config countMethod pageMethod count records trace) :
    Follows (collectionPhases config countMethod pageMethod count) 2 trace := by
  rcases collected.fetched with ⟨arrivals, pages, fetched, -, rfl⟩
  exact .pair (completed_exchange rfl) (completed_fetched (Config.pageSize_pos usable) fetched)

/-- A session has followed the phases of a collection after another session. -/
def PartlyRead (config : Config) (countMethod pageMethod : Text) (session later : Session) : Prop :=
  ∃ count completed trace, Follows (collectionPhases config countMethod pageMethod count) completed
    trace ∧ session.Logs trace later

section

variable [Platform] [Platform.PrintsAll]

/-- If a collection cannot be read, reading stops in one of its phases. What was printed before does
not show. -/
theorem collect_partly (usable : config.isUsable) {limits : PageLimits}
    (size : limits.size = config.pageSize.toNat) (delivery : Delivery) {before : Session}
    (front : before.Logs [] session) :
    Run.Ends (reportedCount network config.source countMethod) session world
      (fun count later after =>
        Run.Ends (Page.fetchAll (pageSource network config pageMethod) limits delivery count)
          later after (fun _ _ _ => True)
          (fun _ latest _ => PartlyRead config countMethod pageMethod before latest))
      (fun _ latest _ => PartlyRead config countMethod pageMethod before latest) := by
  apply (reportedCount_ends countMethod).mono
  · intro count later after ended
    rcases ended with ⟨-, logs⟩
    apply (Page.fetchAll_asks limits delivery count).mono (fun _ _ _ => id)
    intro failure latest _ ended
    rcases ended with ⟨pages, within, trace, logs', asked⟩
    refine ⟨count, 1, _, .completed (completed_exchange rfl) (.begun ?_),
      front.append (logs.append logs')⟩
    rw [asked, pagesPhase, ← Page.map_query_all _ _ _ (Config.pageSize_pos usable), ← size]
    exact within.map _
  · intro failure later _ ended
    rcases ended with ⟨-, outcome, logs⟩
    exact ⟨0, 0, _, begun_exchange .., front.append logs⟩

theorem fetchNodes_partly (usable : config.isUsable) {limits : PageLimits}
    (size : limits.size = config.pageSize.toNat) (delivery : Delivery) :
    Run.Ends (fetchNodes network delivery config limits) session world
      (fun _ _ _ => True)
      (fun _ later _ => PartlyRead config "get_node_count" "get_nodes" session later) := by
  simp only [fetchNodes, Run.ends_bind, Run.ends_printAll]
  refine (collect_partly usable size delivery (session.logs_printed _)).mono ?_ (fun _ _ _ => id)
  intro count later after fetch
  refine fetch.mono ?_ (fun _ _ _ => id)
  intro records latest _ _
  simp only [Run.ends_update, Run.ends_print, ends_advance, Run.ends_pure]

theorem fetchAccounts_partly (usable : config.isUsable) {limits : PageLimits}
    (size : limits.size = config.pageSize.toNat) (delivery : Delivery) :
    Run.Ends (fetchAccounts network delivery config limits) session world
      (fun _ _ _ => True)
      (fun _ later _ => PartlyRead config "get_account_count" "get_accounts" session later) := by
  simp only [fetchAccounts, Run.ends_bind, Run.ends_printAll]
  refine (collect_partly usable size delivery (session.logs_printed _)).mono ?_ (fun _ _ _ => id)
  intro count later after fetch
  refine fetch.mono ?_ (fun _ _ _ => id)
  intro records latest _ _
  simp only [Run.ends_update, Run.ends_print, ends_advance, Run.ends_pure]

end

/-- A session has followed the phases in which a migration reads, and completed those that its stage
says. -/
def ReadsPlanned (config : Config) (session : Session) : Prop :=
  ∃ nodeCount accountCount completed, phasesRead session.stage ≤ completed ∧
    Follows (readPhases config nodeCount accountCount) completed session.trace

theorem readsPlanned_of {stage : Stage} {trace : List Event}
    {nodeCount accountCount completed : Nat} (same : later.trace = trace)
    (reached : later.stage = stage) (enough : phasesRead stage ≤ completed)
    (follows : Follows (readPhases config nodeCount accountCount) completed trace) :
    ReadsPlanned config later :=
  ⟨nodeCount, accountCount, completed, reached ▸ enough, same ▸ follows⟩

/-- The steps that read follow their phases, whether or not they fail. -/
theorem readAll_planned [Platform] [Platform.PrintsAll] (schedule : Schedule) (tree : FileTree)
    (usable : config.isUsable) :
    Run.Ends (readAll network schedule config) { tree } world
      (fun _ later _ => ReadsPlanned config later)
      (fun _ later _ => ReadsPlanned config later) := by
  have admitting := follows_admission config
  rcases PageLimits.ofSettings_ok usable with ⟨limits, fixed, size⟩
  simp only [readAll, Run.ends_bind, Run.ends_pure, Run.ends_ofExcept, fixed]
  apply checkPreconditions_ends.mono
  · intro _ admitted _ admittance
    have admission_eq : admitted.trace = admission config := admittance.trace_eq
    apply ((fetchNodes_ends size schedule.nodes).and
      (fetchNodes_partly usable size schedule.nodes)).mono
    · intro nodeCount nodesRead _ ended
      rcases ended with ⟨⟨nodes, nodeReads, nodesCollected, nodeLogs⟩, -⟩
      have nodesFollow := nodesCollected.follows usable
      have nodes_eq : nodesRead.trace = admission config ++ nodeReads :=
        nodeLogs.trace_eq.trans (congrArg (· ++ nodeReads) admission_eq)
      apply ((fetchAccounts_ends size schedule.accounts).and
        (fetchAccounts_partly usable size schedule.accounts)).mono
      · intro accountCount accountsRead _ ended
        rcases ended with ⟨⟨accounts, accountReads, accountsCollected, accountLogs⟩, -⟩
        have follows := admitting.append (nodesFollow.append (accountsCollected.follows usable))
        have accounts_eq : accountsRead.trace ++ [] =
            admission config ++ (nodeReads ++ accountReads) := by
          rw [List.append_nil, ← List.append_assoc]
          exact accountLogs.trace_eq.trans (congrArg (· ++ accountReads) nodes_eq)
        apply (report_ends nodeCount accountCount).mono
        · intro _ later _ ended
          rcases ended with ⟨total, totalNear, -, -, logs⟩
          exact readsPlanned_of (logs.trace_eq.trans accounts_eq) logs.stage_eq (Nat.le_refl 6)
            follows
        · intro failure later _ ended
          exact readsPlanned_of (ended.2.trace_eq.trans accounts_eq)
            (ended.2.stage_eq.trans accountLogs.stage_eq) (Nat.le_refl 6) follows
      · intro failure later _ ended
        rcases ended with ⟨-, count, completed, trace, follows, logs⟩
        refine readsPlanned_of ?_ (logs.stage_eq.trans nodeLogs.stage_eq) ?_
          (admitting.append (nodesFollow.append follows))
        · rw [logs.trace_eq, nodes_eq, List.append_assoc]
        · change 4 ≤ 2 + (2 + completed)
          omega
    · intro failure later _ ended
      rcases ended with ⟨-, count, completed, trace, follows, logs⟩
      refine readsPlanned_of ?_ (logs.stage_eq.trans admittance.stage_eq) ?_
        (admitting.append (follows.widen (collectionPhases config _ _ 0)))
      · rw [logs.trace_eq, admission_eq]
      · change 2 ≤ 2 + completed
        omega
  · intro failure later _ ended
    rcases ended with ⟨trace, refused, logs⟩
    rcases refused.follows (collectionPhases config _ _ 0 ++ collectionPhases config _ _ 0) with
      ⟨completed, follows⟩
    exact readsPlanned_of logs.trace_eq logs.stage_eq (Nat.zero_le _) follows

/-! ## Whole runs -/

/-- A session has logged something after another session, and no query. -/
def WritesAfter (session later : Session) : Prop :=
  ∃ writes, later.trace = session.trace ++ writes ∧ writes.filterMap Event.query? = []

theorem WritesAfter.trans {first second third : Session} (front : WritesAfter first second)
    (back : WritesAfter second third) : WritesAfter first third := by
  rcases front with ⟨writes, same, silent⟩
  rcases back with ⟨more, same', silent'⟩
  refine ⟨writes ++ more, ?_, ?_⟩
  · rw [same', same, List.append_assoc]
  · rw [List.filterMap_append, silent, silent', List.append_nil]

theorem writesAfter_of_logs {changed : Session} {trace : List Event}
    (logs : changed.Logs trace later) (silent : trace.filterMap Event.query? = [])
    (journal : changed.journal = session.journal) : WritesAfter session later := by
  refine ⟨trace, ?_, silent⟩
  rw [logs.trace_eq, Session.trace, Session.events, journal]
  rfl

/-- A session has read in phases, without a write, and then written, without a query. It has
completed the phases that its stage says. -/
structure Planned (config : Config) (session : Session) (nodeCount accountCount completed : Nat)
    (reads writes : List Event) : Prop where
  trace : session.trace = reads ++ writes
  stage : phasesRead session.stage ≤ completed
  follows : Follows (readPhases config nodeCount accountCount) completed reads
  unwritten : Event.calls reads = []
  silent : writes.filterMap Event.query? = []

section Planned

variable {nodeCount accountCount completed : Nat} {reads writes before after : List Event}

theorem Planned.queries
    (planned : Planned config session nodeCount accountCount completed reads writes) :
    session.queries = reads.filterMap Event.query? := by
  rw [Session.queries_eq, planned.trace, List.filterMap_append, planned.silent, List.append_nil]

/-- A query is asked among the reads. -/
theorem Planned.asked {query : Query}
    (planned : Planned config session nodeCount accountCount completed reads writes)
    (split : session.trace = before ++ .asked query :: after) :
    ∃ rest, reads = before ++ .asked query :: rest := by
  have silent := planned.silent
  rw [planned.trace] at split
  rcases List.append_eq_append_iff.mp split with ⟨between, -, there⟩ | ⟨between, here, there⟩
  · rw [there, queries_split] at silent
    simp at silent
  · cases between with
    | nil =>
        rw [← List.nil_append writes, ← there] at silent
        cases silent
    | cons event rest =>
        rcases List.cons.inj there with ⟨rfl, -⟩
        exact ⟨rest, here⟩

/-- No query is asked after a call. -/
theorem Planned.called {call : Call} {outcome : Except Failure Unit}
    (planned : Planned config session nodeCount accountCount completed reads writes)
    (split : session.trace = before ++ .called call outcome :: after) :
    after.filterMap Event.query? = [] := by
  have silent := planned.silent
  have unwritten := planned.unwritten
  rw [planned.trace] at split
  rcases List.append_eq_append_iff.mp split with ⟨between, -, there⟩ | ⟨between, here, there⟩
  · rw [there, List.filterMap_append, List.append_eq_nil_iff] at silent
    exact silent.2
  · cases between with
    | nil =>
        rw [← List.nil_append writes, ← there] at silent
        exact silent
    | cons event rest =>
        rcases List.cons.inj there with ⟨rfl, -⟩
        rw [here, Event.calls_append, List.append_eq_nil_iff] at unwritten
        cases unwritten.2

end Planned

/-- A session has read in phases and then written. -/
def ReadsFirst (config : Config) (session : Session) : Prop :=
  ∃ nodeCount accountCount completed reads writes,
    Planned config session nodeCount accountCount completed reads writes

theorem phasesRead_le (stage : Stage) : phasesRead stage ≤ 6 := by
  cases stage <;> decide

theorem le_phasesRead_nodes (stage : Stage) : .nodesFetched ≤ stage → 4 ≤ phasesRead stage := by
  cases stage <;> decide

theorem le_phasesRead_accounts (stage : Stage) :
    .accountsFetched ≤ stage → 6 ≤ phasesRead stage := by
  cases stage <;> decide

/-- The steps of a migration read in phases and then write. -/
theorem steps_readsFirst [Platform] [Platform.PrintsAll] (schedule : Schedule) (tree : FileTree)
    (usable : config.isUsable) :
    Run.Ends (steps network schedule config) { tree } world
      (fun _ later _ => ReadsFirst config later) (fun _ later _ => ReadsFirst config later) := by
  rw [steps, Run.ends_bind]
  apply ((readAll_planned schedule tree usable).and (readAll_stage schedule tree usable)).mono
  · intro count read after ended
    rcases ended with ⟨⟨nodeCount, accountCount, completed, enough, follows⟩, reported, -, silent⟩
    rw [reported] at enough
    rw [Session.calls_eq] at silent
    have writing (later : Session) (wrote : WritesAfter read later) : ReadsFirst config later := by
      rcases wrote with ⟨writes, trace, quiet⟩
      exact ⟨nodeCount, accountCount, completed, read.trace, writes,
        trace, (phasesRead_le later.stage).trans enough, follows, silent, quiet⟩
    split
    · rw [Run.ends_printBlock]
      exact writing _ (writesAfter_of_logs (Session.logs_printed _ _) rfl rfl)
    · have written : Run.Ends (writeAll network config count) read after _ _ :=
        writeAll_related WritesAfter WritesAfter.trans
          (fun logs silent journal _ _ => writesAfter_of_logs logs silent journal) usable count
      exact written.mono (fun _ later _ => writing later) fun _ later _ => writing later
  · intro failure read _ ended
    rcases ended with ⟨⟨nodeCount, accountCount, completed, enough, follows⟩, -, silent⟩
    rw [Session.calls_eq] at silent
    exact ⟨nodeCount, accountCount, completed, read.trace, [], (List.append_nil _).symm, enough,
      follows, silent, rfl⟩

theorem ReadsFirst.keep {stopped : Session} (keeps : Keeps stopped later)
    (first : ReadsFirst config stopped) : ReadsFirst config later := by
  rcases first with ⟨nodeCount, accountCount, completed, reads, writes, planned⟩
  exact ⟨nodeCount, accountCount, completed, reads, writes, { planned with
    trace := keeps.trace.trans planned.trace
    stage := keeps.stage ▸ planned.stage }⟩

/-- A whole run reads in phases and then writes. -/
theorem ending_readsFirst [Platform] [Platform.PrintsAll] (host : Host (StateM World))
    (folder : RunFolder) (tree : FileTree) (world : World) (usable : config.isUsable) :
    ReadsFirst config (ending host config folder tree world).2 := by
  rcases ending_course host folder tree world usable with ⟨failure, stopped, ended, -, keeps, -⟩
  have first : Run.Ends (steps host.network host.schedule config) { tree }
    (host.now.run world).2 _ _ := steps_readsFirst host.schedule tree usable
  unfold stepsEnding at ended
  rcases ran : (Run.startFrom { tree } (steps host.network host.schedule config)).run
    (host.now.run world).2 with ⟨⟨outcome, last⟩, after⟩
  rw [ran] at ended
  rcases Prod.mk.inj ended with ⟨-, rfl⟩
  have result := first.of_run ran
  cases outcome with
  | ok => exact result.keep keeps
  | error failure => exact result.keep keeps

/-! ## What the phases say -/

theorem fields_of_mem_queries {account method : Text} {total size : Nat} :
    ∀ query ∈ Page.queries account method total size,
      query.account = account ∧ query.method = method := by
  intro query member
  rcases List.mem_map.mp member with ⟨first, -, rfl⟩
  exact ⟨rfl, rfl⟩

/-- The queries of a method. -/
def queriesOf (method : Text) (queries : List Query) : List Query :=
  queries.filter (·.method = method)

theorem queriesOf_queries (account method method' : Text) (total size : Nat) :
    queriesOf method' (Page.queries account method total size) =
      if method = method' then Page.queries account method total size else [] := by
  split
  · rename_i same
    refine List.filter_eq_self.mpr fun query member => ?_
    simpa [fields_of_mem_queries query member] using same
  · rename_i other
    refine List.filter_eq_nil_iff.mpr fun query member => ?_
    simpa [fields_of_mem_queries query member] using other

theorem queriesOf_prefix {front whole : List Query} (within : front <+: whole) (method : Text) :
    queriesOf method front <+: queriesOf method whole :=
  within.filter _

theorem queriesOf_append (method : Text) (front back : List Query) :
    queriesOf method (front ++ back) = queriesOf method front ++ queriesOf method back :=
  List.filter_append ..

theorem queriesOf_cons (method : Text) (query : Query) (queries : List Query) :
    queriesOf method (query :: queries) =
      if query.method = method then query :: queriesOf method queries
      else queriesOf method queries := by
  simp [queriesOf, List.filter_cons]

theorem filter_account_queries {account account' : Text} (apart : account ≠ account')
    (method : Text) (total size : Nat) :
    (Page.queries account method total size).filter (·.account = account') = [] := by
  refine List.filter_eq_nil_iff.mpr fun query member => ?_
  simpa [fields_of_mem_queries query member] using apart

/-- The destination is asked for its status only. -/
theorem filter_destination (usable : config.isUsable) (nodeCount accountCount : Nat) :
    ((readPhases config nodeCount accountCount).flatMap Phase.queries).filter
      (·.account = config.destination) = [statusQuery config.destination] := by
  have apart := (Config.isUsable_iff.mp usable).apart
  simp [readPhases, admissionPhases, collectionPhases, countPhase, pagesPhase, statusQuery,
    countQuery, filter_account_queries apart, apart]

theorem queriesOf_nodes (config : Config) (nodeCount accountCount : Nat) :
    queriesOf "get_nodes" ((readPhases config nodeCount accountCount).flatMap Phase.queries) =
        Page.queries config.source "get_nodes" nodeCount config.pageSize.toNat ∧
      queriesOf "get_nodes"
          (((readPhases config nodeCount accountCount).take 4).flatMap Phase.queries) =
        Page.queries config.source "get_nodes" nodeCount config.pageSize.toNat := by
  constructor
  · simp +decide [readPhases, admissionPhases, collectionPhases, countPhase, pagesPhase,
      statusQuery, countQuery, queriesOf_queries, queriesOf_append, queriesOf_cons]
  · simp +decide [readPhases, admissionPhases, collectionPhases, countPhase, pagesPhase,
      statusQuery, countQuery, queriesOf_queries, queriesOf_cons]

theorem queriesOf_accounts (config : Config) (nodeCount accountCount : Nat) :
    queriesOf "get_accounts" ((readPhases config nodeCount accountCount).flatMap Phase.queries) =
      Page.queries config.source "get_accounts" accountCount config.pageSize.toNat := by
  simp +decide [readPhases, admissionPhases, collectionPhases, countPhase, pagesPhase,
    statusQuery, countQuery, queriesOf_queries, queriesOf_append, queriesOf_cons]

/-- A session has gathered a collection: the source reports its size, and the pages that are asked
for cut it into intervals. -/
structure Gathered (config : Config) (countMethod pageMethod : Text) (count : Nat)
    (session : Session) : Prop where
  counted : .answered (countQuery config countMethod) (.ok (.nat count)) ∈ session.trace
  paged : ∃ pages, queriesOf pageMethod session.queries =
      pages.map (Page.query config.source pageMethod) ∧
    Page.Partition config.pageSize.toNat count pages

/-- A collection is gathered once both of its phases are completed. -/
theorem Planned.gathered {nodeCount accountCount completed number count : Nat}
    {reads writes : List Event} (usable : config.isUsable)
    (planned : Planned config session nodeCount accountCount completed reads writes)
    (enough : number ≤ completed)
    (member : countPhase config countMethod count ∈
      (readPhases config nodeCount accountCount).take number)
    (least : queriesOf pageMethod
        (((readPhases config nodeCount accountCount).take number).flatMap Phase.queries) =
      Page.queries config.source pageMethod count config.pageSize.toNat)
    (most : queriesOf pageMethod
        ((readPhases config nodeCount accountCount).flatMap Phase.queries) =
      Page.queries config.source pageMethod count config.pageSize.toNat) :
    Gathered config countMethod pageMethod count session where
  counted := by
    have within := List.take_subset_take_left (readPhases config nodeCount accountCount) enough
    rcases planned.follows.answered _ (within member) _ (List.mem_singleton_self _) with
      ⟨answer, found, rfl⟩
    rw [planned.trace]
    exact List.mem_append_left writes found
  paged := by
    have positive := Config.pageSize_pos usable
    have lower := queriesOf_prefix (planned.follows.prefix_queries enough) pageMethod
    have upper := queriesOf_prefix planned.follows.queries_prefix pageMethod
    rw [least] at lower
    rw [most] at upper
    refine ⟨_, ?_, Page.partition_all positive count⟩
    rw [planned.queries, Page.map_query_all _ _ _ positive]
    exact upper.eq_of_length_le lower.length_le

/-- The queries of a run are, up to somewhere, those of six phases. A query of a phase is asked only
when all queries of the phases before it have been asked and answered acceptably. The destination is
asked at most once, for its status, and nothing is asked after the first write. When a collection
has been fetched, the pages asked for cut it into intervals, whatever size was reported. -/
theorem reads_follow_plan [Platform] [Platform.PrintsAll] (host : Host (StateM World))
    (config : Config) (folder : RunFolder) (tree : FileTree) (world : World)
    (usable : config.isUsable) :
    let session := (ending host config folder tree world).2
    ∃ nodeCount accountCount,
      session.queries <+: (readPhases config nodeCount accountCount).flatMap Phase.queries ∧
      (∀ before query after, session.trace = before ++ .asked query :: after →
        ∃ done phase ahead asked,
          readPhases config nodeCount accountCount = done ++ phase :: ahead ∧
          before.filterMap Event.query? = done.flatMap Phase.queries ++ asked ∧
          asked ++ [query] <+: phase.queries ∧ ∀ earlier ∈ done, earlier.Answered before) ∧
      session.queries.filter (·.account = config.destination) <+:
        [statusQuery config.destination] ∧
      (∀ before call outcome after, session.trace = before ++ .called call outcome :: after →
        after.filterMap Event.query? = []) ∧
      (.nodesFetched ≤ session.stage →
        Gathered config "get_node_count" "get_nodes" nodeCount session) ∧
      (.accountsFetched ≤ session.stage →
        Gathered config "get_account_count" "get_accounts" accountCount session) := by
  intro session
  rcases ending_readsFirst host folder tree world usable with
    ⟨nodeCount, accountCount, completed, reads, writes, planned⟩
  have within := planned.follows.queries_prefix
  rw [← planned.queries] at within
  refine ⟨nodeCount, accountCount, within, ?_, ?_, ?_, ?_, ?_⟩
  · intro before query after split
    rcases planned.asked split with ⟨rest, front⟩
    exact planned.follows.entered front
  · rw [← filter_destination usable nodeCount accountCount]
    exact within.filter _
  · exact fun before call outcome after split => planned.called split
  · intro reached
    have enough := (le_phasesRead_nodes _ reached).trans planned.stage
    have asked := queriesOf_nodes config nodeCount accountCount
    exact planned.gathered usable enough (by simp [readPhases, admissionPhases, collectionPhases])
      asked.2 asked.1
  · intro reached
    have enough := (le_phasesRead_accounts _ reached).trans planned.stage
    have asked := queriesOf_accounts config nodeCount accountCount
    exact planned.gathered usable enough (by simp [readPhases, admissionPhases, collectionPhases])
      asked asked

attribute [local instance] Platform.accepting Platform.printsAll_accepting

/-- A small migration asks for the two statuses, and gathers three nodes and an account. -/
theorem reads_follow_plan_pairwise :
    pairwise.isUsable ∧ (pairwiseEnding 4).2.queries.length = 7 ∧
      ∃ nodeCount accountCount,
        (pairwiseEnding 4).2.queries <+:
          (readPhases pairwise nodeCount accountCount).flatMap Phase.queries ∧
        Gathered pairwise "get_node_count" "get_nodes" nodeCount (pairwiseEnding 4).2 ∧
        Gathered pairwise "get_account_count" "get_accounts" accountCount (pairwiseEnding 4).2 := by
  have usable : pairwise.isUsable := by decide
  rcases reads_follow_plan pairwiseHost pairwise (runFolder pairwise ⟨2024, 1, 1, 0, 0, 0, 0⟩)
    ⟨[], []⟩ 4 usable with ⟨nodeCount, accountCount, asked, -, -, -, nodes, accounts⟩
  have done : .accountsFetched ≤ (pairwiseEnding 4).2.stage := by decide
  exact ⟨usable, by decide, nodeCount, accountCount, asked,
    nodes (Nat.le_trans (by decide : Stage.nodesFetched ≤ .accountsFetched) done), accounts done⟩

end Migration

end SocialMigration
