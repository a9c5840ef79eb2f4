import SocialMigration.Migration.Steps
import SocialMigration.Proofs.Config
import SocialMigration.Proofs.Page.Fetch

/-!
# The steps that read

What the first four steps leave behind. The two statuses come first, each asked for only if all
before it is as it has to be; then each collection, its reported size before its pages; and then the
total of the balances, for which nothing is asked. Either everything is verified, or the run stops
with nothing but reads behind it.
-/

namespace SocialMigration

/-- The place of a stage in the order of stages. -/
def Stage.rank : Stage → Nat
  | start => 0
  | preconditionsOk => 1
  | nodesFetched => 2
  | accountsFetched => 3
  | reported => 4
  | nodeCountInitialized => 5
  | nodesCommitted => 6
  | accountsCommitted => 7
  | done => 8

instance : LE Stage := ⟨fun first second => first.rank ≤ second.rank⟩

instance (first second : Stage) : Decidable (first ≤ second) :=
  inferInstanceAs (Decidable (first.rank ≤ second.rank))

namespace Status

theorem ofWord?_eq_some_iff {text : Text} {status : Status} :
    ofWord? text = some status ↔ text = status.word := by
  constructor
  · intro found
    have matched := List.find?_some found
    exact (eq_of_beq matched).symm
  · intro same
    subst same
    cases status <;> decide

/-- An answer reports a status exactly if it is the word for it. -/
theorem ofJson?_eq_some_iff {answer : Json} {status : Status} :
    ofJson? answer = some status ↔ answer = .str status.word := by
  cases answer with
  | str text => simp [ofJson?, ofWord?_eq_some_iff]
  | _ => simp [ofJson?]

end Status

/-- The events of a query that is asked and then answered. -/
def Query.exchange (query : Query) (outcome : Except Failure Json) : List Event :=
  [.asked query, .answered query outcome]

namespace Precondition

variable [Platform]

/-- The failure that another status than the expected one makes. It quotes the status, unless that
is not put into words. -/
def refusal (label account : Text) (expected : Status) (answer : Json) : Failure :=
  match Place.status.unworded? answer with
  | none => .precondition label account expected answer
  | some fault => .unworded fault

theorem isBatch_refusal (label account : Text) (expected : Status) (answer : Json) :
    (refusal label account expected answer).isBatch = false := by
  rw [refusal]
  split <;> rfl

variable [Platform.PrintsAll] {World : Type} {network : Network (StateM World)} {session : Session}
  {world : World}

/-- A required status is reported, or there is no answer, or there is another one. -/
theorem require_ends (verbose : Bool) (account : Text) (expected : Status) (label : Text) :
    Run.Ends (require network verbose account expected label) session world
      (fun _ later _ =>
        session.Logs ((statusQuery account).exchange (.ok (.str expected.word))) later)
      (fun failure later _ =>
        network.Fails failure ∧
          session.Logs ((statusQuery account).exchange (.error failure)) later ∨
        ∃ answer, answer ≠ .str expected.word ∧
          failure = refusal label account expected answer ∧
          session.Logs ((statusQuery account).exchange (.ok answer)) later) := by
  rw [require, Run.ends_bind]
  apply (Run.ask_ends _).mono
  · intro answer later after ended
    rcases ended with ⟨-, logs⟩
    split
    · rename_i reported
      rcases Status.ofJson?_eq_some_iff.mp (eq_of_beq reported) with rfl
      rw [Run.ends_bind, Run.ends_printIf]
      exact logs.andLines _
    · rename_i other
      have differs : answer ≠ .str expected.word := by
        intro same
        exact other (beq_iff_eq.mpr (Status.ofJson?_eq_some_iff.mpr same))
      rw [Run.ends_bind, Run.ends_requireWords]
      cases words : Place.status.unworded? answer with
      | none =>
          simp only [Run.ends_bind, Run.ends_printIf]
          exact .inr ⟨answer, differs, by rw [refusal, words], logs.andLines _⟩
      | some fault =>
          exact .inr ⟨answer, differs, by rw [refusal, words], logs⟩
  · intro failure later _ ended
    rcases ended with ⟨fails, logs⟩
    exact .inl ⟨fails, logs⟩

end Precondition

namespace Migration

open Precondition (statusQuery refusal)

variable {World : Type} {network : Network (StateM World)} {config : Config}

/-! ## The preconditions -/

/-- The events of both preconditions met. -/
def admission (config : Config) : List Event :=
  (statusQuery config.source).exchange (.ok "ReadOnly") ++
    (statusQuery config.destination).exchange (.ok "Genesis")

/-- The ways in which the preconditions stop a run, with the trace and the failure of each. -/
inductive Refused [Platform] (network : Network (StateM World)) (config : Config) :
    List Event → Failure → Prop where
  | sourceUnknown {failure : Failure} : network.Fails failure →
      Refused network config ((statusQuery config.source).exchange (.error failure)) failure
  | source {answer : Json} : answer ≠ "ReadOnly" →
      Refused network config ((statusQuery config.source).exchange (.ok answer))
        (refusal "source" config.source .readOnly answer)
  | destinationUnknown {failure : Failure} : network.Fails failure →
      Refused network config ((statusQuery config.source).exchange (.ok "ReadOnly") ++
        (statusQuery config.destination).exchange (.error failure)) failure
  | destination {answer : Json} : answer ≠ "Genesis" →
      Refused network config ((statusQuery config.source).exchange (.ok "ReadOnly") ++
        (statusQuery config.destination).exchange (.ok answer))
        (refusal "destination" config.destination .genesis answer)

/-! ## Reads -/

/-- The query for the reported size of a collection. -/
def countQuery (config : Config) (method : Text) : Query :=
  ⟨config.source, method, none⟩

/-- A trace in which a collection is read: its reported size, then all of its pages. -/
structure Collected (network : Network (StateM World)) (config : Config)
    (countMethod pageMethod : Text) (count : Nat) (records : List Json) (trace : List Event) :
    Prop where
  counted : network.Answers (countQuery config countMethod) (.nat count)
  fetched : ∃ arrivals pages,
    Page.Fetched network config.source pageMethod (Page.all count config.pageSize.toNat) arrivals
      pages ∧
    records = arrivals.flatMap Prod.snd ∧
    trace = (countQuery config countMethod).exchange (.ok (.nat count)) ++ pages

/-- The methods by which collections are read. -/
def readMethods : List Text :=
  ["get_node_count", "get_nodes", "get_account_count", "get_accounts"]

/-- Whether an event belongs to reading a collection. -/
def ReadsCollection (config : Config) (event : Event) : Prop :=
  ∃ method ∈ readMethods, event.IsReadOf config.source method

variable {countMethod pageMethod : Text}

theorem readsCollection_count (known : countMethod ∈ readMethods)
    (outcome : Except Failure Json) :
    ∀ event ∈ (countQuery config countMethod).exchange outcome, ReadsCollection config event := by
  simp only [Query.exchange, List.forall_mem_cons]
  exact ⟨⟨countMethod, known, rfl, rfl⟩, ⟨countMethod, known, rfl, rfl⟩, by simp⟩

theorem Collected.reads {count : Nat} {records : List Json} {trace : List Event}
    (countKnown : countMethod ∈ readMethods) (pageKnown : pageMethod ∈ readMethods)
    (collected : Collected network config countMethod pageMethod count records trace) :
    ∀ event ∈ trace, ReadsCollection config event := by
  rcases collected.fetched with ⟨arrivals, pages, fetched, -, rfl⟩
  rw [List.forall_mem_append]
  exact ⟨readsCollection_count countKnown _,
    fun event member => ⟨pageMethod, pageKnown, fetched.reads event member⟩⟩

theorem nodeCountKnown : Text.ofString "get_node_count" ∈ readMethods := by decide
theorem nodesKnown : Text.ofString "get_nodes" ∈ readMethods := by decide
theorem accountCountKnown : Text.ofString "get_account_count" ∈ readMethods := by decide
theorem accountsKnown : Text.ofString "get_accounts" ∈ readMethods := by decide

variable [Platform] {session : Session} {world : World}

/-- An answer that is no count ends the run, whether or not it can be quoted. -/
theorem refuseCount_ends (account method : Text) (answer : Json) :
    Run.Ends (refuseCount account method answer) session world (fun _ _ _ => False)
      (fun failure later _ => failure.isBatch = false ∧ later = session) := by
  rw [refuseCount, Run.ends_bind, Run.ends_requireWords]
  cases Place.count.unworded? answer with
  | none => exact ⟨rfl, rfl⟩
  | some fault => exact ⟨rfl, rfl⟩

theorem reportedCount_ends (method : Text) :
    Run.Ends (reportedCount network config.source method) session world
      (fun count later _ => network.Answers (countQuery config method) (.nat count) ∧
        session.Logs ((countQuery config method).exchange (.ok (.nat count))) later)
      (fun failure later _ => network.Explains failure ∧ ∃ outcome,
        session.Logs ((countQuery config method).exchange outcome) later) := by
  rw [reportedCount, Run.ends_bind]
  apply (Run.ask_ends _).mono
  · intro answer later after ended
    rcases ended with ⟨answers, logs⟩
    have refused {outcome : Except Failure Json}
        (logs : session.Logs ((countQuery config method).exchange outcome) later)
        (failure : Failure) (latest : Session) (_ : World)
        (ended : failure.isBatch = false ∧ latest = later) :
        network.Explains failure ∧ ∃ outcome,
          session.Logs ((countQuery config method).exchange outcome) latest := by
      rw [ended.2]
      exact ⟨fun batch => absurd batch (by simp [ended.1]), outcome, logs⟩
    cases answer with
    | int value =>
        simp only
        split
        · rename_i nonneg
          have same : Json.nat value.toNat = .int value :=
            congrArg Json.int (Int.toNat_of_nonneg nonneg)
          rw [Run.ends_pure, same]
          exact ⟨answers, logs⟩
        · exact (refuseCount_ends _ _ _).mono (fun _ _ _ => False.elim) (refused logs)
    | _ => exact (refuseCount_ends _ _ _).mono (fun _ _ _ => False.elim) (refused logs)
  · intro failure later _ ended
    rcases ended with ⟨fails, logs⟩
    exact ⟨fun _ => fails, _, logs⟩

/-! ## The first step -/

variable [Platform.PrintsAll]

@[simp] theorem ends_advance {stage : Stage} {returned : Unit → Session → World → Prop}
    {failed : Failure → Session → World → Prop} :
    Run.Ends (advance config stage) session world returned failed ↔
      returned () (({ session with stage } : Session).extend
        ((if config.debug then [Text.ofString "  State: " ++ stage.name] else []).map
          .printed)) world := by
  rw [advance, Run.ends_bind, Run.ends_update, Run.ends_printIf]

theorem checkPreconditions_ends :
    Run.Ends (checkPreconditions network config) session world
      (fun _ later _ =>
        ({ session with stage := .preconditionsOk } : Session).Logs (admission config) later)
      (fun failure later _ => ∃ trace, Refused network config trace failure ∧
        session.Logs trace later) := by
  have headed := session.logs_printed (stepHeading 1 "PRECONDITIONS")
  simp only [checkPreconditions, Precondition.check, Run.ends_bind, Run.ends_printAll,
    Run.ends_discard]
  apply (Precondition.require_ends ..).mono
  · intro _ later after sourceLogs
    apply (Precondition.require_ends ..).mono
    · intro _ latest _ destinationLogs
      simp only [Run.ends_print, ends_advance, Session.extend_extend]
      have logs := headed.append (sourceLogs.append destinationLogs) |>.andLines
        ["  Source " ++ config.source ++ " is ReadOnly",
          "  Destination " ++ config.destination ++ " is in Genesis"]
      exact (logs.update ({ · with stage := .preconditionsOk }) fun _ _ => rfl)
        |>.andLines _
    · intro failure latest _ ended
      rcases ended with ⟨fails, logs⟩ | ⟨answer, other, rfl, logs⟩
      · exact ⟨_, .destinationUnknown fails, headed.append (sourceLogs.append logs)⟩
      · exact ⟨_, .destination other, headed.append (sourceLogs.append logs)⟩
  · intro failure later _ ended
    rcases ended with ⟨fails, logs⟩ | ⟨answer, other, rfl, logs⟩
    · exact ⟨_, .sourceUnknown fails, headed.append logs⟩
    · exact ⟨_, .source other, headed.append logs⟩

/-! ## The collections -/

/-- A collection is read, or the run stops with reads of it. What was printed before does not
show. -/
theorem collect_ends (countKnown : countMethod ∈ readMethods) (pageKnown : pageMethod ∈ readMethods)
    {limits : PageLimits} (size : limits.size = config.pageSize.toNat) (delivery : Delivery)
    {before : Session} (front : before.Logs [] session) :
    Run.Ends (reportedCount network config.source countMethod) session world
      (fun count later after =>
        Run.Ends (Page.fetchAll (pageSource network config pageMethod) limits delivery count)
          later after
          (fun records latest _ => ∃ trace,
            Collected network config countMethod pageMethod count records trace ∧
            before.Logs trace latest)
          (fun failure latest _ => network.Explains failure ∧ ∃ trace,
            (∀ event ∈ trace, ReadsCollection config event) ∧ before.Logs trace latest))
      (fun failure latest _ => network.Explains failure ∧ ∃ trace,
        (∀ event ∈ trace, ReadsCollection config event) ∧ before.Logs trace latest) := by
  apply (reportedCount_ends countMethod).mono
  · intro count later after ended
    rcases ended with ⟨counted, logs⟩
    apply (Page.fetchAll_ends limits delivery count).mono
    · intro records latest _ ended
      rcases ended with ⟨arrivals, pages, fetched, same, logs'⟩
      rw [size] at fetched
      exact ⟨_, ⟨counted, arrivals, pages, fetched, same, rfl⟩,
        front.append (logs.append logs')⟩
    · intro failure latest _ ended
      rcases ended with ⟨explained, trace, reads, logs'⟩
      refine ⟨explained, _, ?_, front.append (logs.append logs')⟩
      rw [List.nil_append, List.forall_mem_append]
      exact ⟨readsCollection_count countKnown _,
        fun event member => ⟨pageMethod, pageKnown, reads event member⟩⟩
  · intro failure later _ ended
    rcases ended with ⟨explained, outcome, logs⟩
    exact ⟨explained, _, readsCollection_count countKnown outcome, front.append logs⟩

theorem fetchNodes_ends {limits : PageLimits} (size : limits.size = config.pageSize.toNat)
    (delivery : Delivery) :
    Run.Ends (fetchNodes network delivery config limits) session world
      (fun count later _ => ∃ nodes trace,
        Collected network config "get_node_count" "get_nodes" count nodes trace ∧
        ({ session with nodes, stage := .nodesFetched } : Session).Logs trace later)
      (fun failure later _ => network.Explains failure ∧ ∃ trace,
        (∀ event ∈ trace, ReadsCollection config event) ∧ session.Logs trace later) := by
  simp only [fetchNodes, Run.ends_bind, Run.ends_printAll]
  refine (collect_ends nodeCountKnown nodesKnown size delivery (session.logs_printed _)).mono ?_
    (fun _ _ _ => id)
  intro count later after fetch
  refine fetch.mono ?_ (fun _ _ _ => id)
  intro nodes latest _ ended
  rcases ended with ⟨trace, collected, logs⟩
  simp only [Run.ends_update, Run.ends_print, ends_advance, Run.ends_pure]
  have reported := logs.andLines [fetchedLine "nodes" nodes.length count]
  exact ⟨nodes, trace, collected,
    (reported.update ({ · with nodes, stage := .nodesFetched }) fun _ _ => rfl)
      |>.andLines _⟩

theorem fetchAccounts_ends {limits : PageLimits} (size : limits.size = config.pageSize.toNat)
    (delivery : Delivery) :
    Run.Ends (fetchAccounts network delivery config limits) session world
      (fun count later _ => ∃ accounts trace,
        Collected network config "get_account_count" "get_accounts" count accounts trace ∧
        ({ session with accounts, stage := .accountsFetched } : Session).Logs trace later)
      (fun failure later _ => network.Explains failure ∧ ∃ trace,
        (∀ event ∈ trace, ReadsCollection config event) ∧ session.Logs trace later) := by
  simp only [fetchAccounts, Run.ends_bind, Run.ends_printAll]
  have logs := session.logs_printed
  refine (collect_ends accountCountKnown accountsKnown size delivery (logs _)).mono ?_
    (fun _ _ _ => id)
  intro count later after fetch
  refine fetch.mono ?_ (fun _ _ _ => id)
  intro accounts latest _ ended
  rcases ended with ⟨trace, collected, logs⟩
  simp only [Run.ends_update, Run.ends_print, ends_advance, Run.ends_pure]
  have reported := logs.andLines [fetchedLine "accounts" accounts.length count]
  exact ⟨accounts, trace, collected,
    (reported.update ({ · with accounts, stage := .accountsFetched }) fun _ _ => rfl)
      |>.andLines _⟩

/-! ## The report -/

/-- A report has a total and shows it in NEAR, or the run stops without a further read. -/
theorem report_ends (nodeCount accountCount : Nat) :
    Run.Ends (report config nodeCount accountCount) session world
      (fun _ later _ => ∃ total totalNear, Balance.sum session.accounts = .ok total ∧
        Balance.toNear total Balance.reportPlaces = .ok totalNear ∧
        ({ session with
            stage := .reported
            summary := some ⟨nodeCount, session.nodes.length, accountCount,
              session.accounts.length, total, totalNear⟩ } : Session).Logs [] later)
      (fun failure later _ => failure.isBatch = false ∧ session.Logs [] later) := by
  have headed := session.logs_printed (stepHeading 4 "REPORT")
  have counted := headed.andLines
    [countLine "nodes" session.nodes.length, countLine "accounts" session.accounts.length]
  simp only [report, Run.ends_bind, Run.ends_printAll, Run.ends_session, Run.ends_ofExcept,
    Session.extend_accounts, Session.extend_nodes]
  cases sum : Balance.sum session.accounts with
  | error fault =>
      refine ⟨?_, headed⟩
      cases fault <;> rfl
  | ok total =>
      simp only [Except.mapError, Run.ends_print]
      cases near : Balance.toNear total Balance.reportPlaces with
      | error fault => exact ⟨rfl, counted⟩
      | ok totalNear =>
          simp only [Run.ends_update, ends_advance]
          have logs := counted.andLines ["  Total balance: " ++ totalNear.toText ++ " NEAR"]
          refine ⟨total, totalNear, rfl, near, ?_⟩
          exact (logs.update ({ · with
            stage := .reported
            summary := some ⟨nodeCount, session.nodes.length, accountCount,
              session.accounts.length, total, totalNear⟩ }) fun _ _ => rfl) |>.andLines _

/-! ## All of them -/

/-- A trace in which everything is verified before the first write: both preconditions are met, both
collections are read, and the balances of the accounts have a total. -/
structure Verified (network : Network (StateM World)) (config : Config) (summary : Summary)
    (nodes accounts : List Json) (trace : List Event) : Prop where
  read : ∃ nodeReads accountReads,
    Collected network config "get_node_count" "get_nodes" summary.nodeCount nodes nodeReads ∧
    Collected network config "get_account_count" "get_accounts" summary.accountCount accounts
      accountReads ∧
    trace = admission config ++ nodeReads ++ accountReads
  nodesFetched : summary.nodesFetched = nodes.length
  accountsFetched : summary.accountsFetched = accounts.length
  total : Balance.sum accounts = .ok summary.total
  totalNear : Balance.toNear summary.total Balance.reportPlaces = .ok summary.totalNear

/-- Everything is verified, or a precondition stops the run, or something after them does, while
collections are read or when the balances are added. -/
theorem readAll_ends (schedule : Schedule) (usable : config.isUsable) :
    Run.Ends (readAll network schedule config) session world
      (fun count later _ => ∃ summary nodes accounts trace, count = summary.nodeCount ∧
        Verified network config summary nodes accounts trace ∧
        ({ session with
            stage := .reported, nodes, accounts, summary := some summary } : Session).Logs
          trace later)
      (fun failure later _ =>
        (∃ trace, Refused network config trace failure ∧ session.Logs trace later) ∨
        network.Explains failure ∧ ∃ stage nodes accounts reads,
          .preconditionsOk ≤ stage ∧ stage ≤ .accountsFetched ∧
          (∀ event ∈ reads, ReadsCollection config event) ∧
          ({ session with stage, nodes, accounts } : Session).Logs (admission config ++ reads)
            later) := by
  rcases PageLimits.ofSettings_ok usable with ⟨limits, fixed, size⟩
  simp only [readAll, Run.ends_bind, Run.ends_pure, Run.ends_ofExcept, fixed]
  refine checkPreconditions_ends.mono ?_ fun _ _ _ => .inl
  intro _ admitted world' admittance
  apply (fetchNodes_ends size schedule.nodes).mono
  · intro nodeCount nodesRead _ ended
    rcases ended with ⟨nodes, nodeReads, nodesCollected, nodeLogs⟩
    have nodesLogged : ({ session with nodes, stage := .nodesFetched } : Session).Logs
        (admission config ++ nodeReads) nodesRead :=
      (admittance.update ({ · with nodes, stage := .nodesFetched })
        fun _ _ => rfl).append nodeLogs
    apply (fetchAccounts_ends size schedule.accounts).mono
    · intro accountCount accountsRead _ ended
      rcases ended with ⟨accounts, accountReads, accountsCollected, accountLogs⟩
      have accountsLogged :
          ({ session with nodes, accounts, stage := .accountsFetched } : Session).Logs
            (admission config ++ nodeReads ++ accountReads) accountsRead :=
        (nodesLogged.update ({ · with accounts, stage := .accountsFetched })
          fun _ _ => rfl).append accountLogs
      apply (report_ends nodeCount accountCount).mono
      · intro _ later _ ended
        rcases ended with ⟨total, totalNear, sum, near, reportLogs⟩
        rw [accountsLogged.nodes_eq, accountsLogged.accounts_eq] at reportLogs
        rw [accountsLogged.accounts_eq] at sum
        refine ⟨⟨nodeCount, nodes.length, accountCount, accounts.length, total, totalNear⟩,
          nodes, accounts, _, rfl,
          ⟨⟨nodeReads, accountReads, nodesCollected, accountsCollected, rfl⟩, rfl, rfl, sum, near⟩,
          ?_⟩
        simpa using (accountsLogged.update ({ · with
          stage := .reported, nodes, accounts
          summary := some ⟨nodeCount, nodes.length, accountCount, accounts.length, total,
            totalNear⟩ }) fun _ _ => rfl).append reportLogs
      · intro failure later _ ended
        rcases ended with ⟨plain, logs⟩
        refine .inr ⟨fun batch => absurd batch (by simp [plain]), .accountsFetched, nodes, accounts,
          nodeReads ++ accountReads, by decide, by decide, ?_, ?_⟩
        · exact List.forall_mem_append.mpr ⟨nodesCollected.reads nodeCountKnown nodesKnown,
            accountsCollected.reads accountCountKnown accountsKnown⟩
        · simpa using accountsLogged.append logs
    · intro failure later _ ended
      rcases ended with ⟨explained, reads, known, logs⟩
      refine .inr ⟨explained, .nodesFetched, nodes, session.accounts, nodeReads ++ reads,
        by decide, by decide, ?_, ?_⟩
      · exact List.forall_mem_append.mpr ⟨nodesCollected.reads nodeCountKnown nodesKnown, known⟩
      · simpa using nodesLogged.append logs
  · intro failure later _ ended
    rcases ended with ⟨explained, reads, known, logs⟩
    exact .inr ⟨explained, .preconditionsOk, session.nodes, session.accounts, reads, by decide,
      by decide, known, admittance.append logs⟩

end Migration

end SocialMigration
