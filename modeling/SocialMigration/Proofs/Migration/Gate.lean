import SocialMigration.Proofs.Balance
import SocialMigration.Proofs.Json.Nesting
import SocialMigration.Proofs.Migration.WritePlan

/-!
# Nothing is written before everything is verified

Whatever the other side answers, the first call of a run comes right after a trace in which both
preconditions are met, both collections are read page by page, and the balances have a total. If a
precondition is not met, the trace ends with the answer that says so, and the failure quotes it,
unless the answer is one that cannot be quoted.
-/

namespace SocialMigration

namespace Migration

open Precondition (statusQuery refusal)

variable {World : Type} {network : Network (StateM World)} {config : Config} {session : Session}
  {tree : FileTree} {failure : Option Failure} {stopped later : Session}

/-- What comes before the first call of events. -/
theorem eq_takeWhile_of_split {events before after : List Event} {call : Call}
    {outcome : Except Failure Unit} (split : events = before ++ .called call outcome :: after)
    (first : Event.calls before = []) :
    before = events.takeWhile fun event => event.sent?.isNone := by
  have silent : ∀ event ∈ before, event.sent?.isNone = true := fun event member =>
    Option.isNone_iff_eq_none.mpr (List.filterMap_eq_nil_iff.mp first event member)
  rw [split, List.takeWhile_append_of_pos silent,
    List.takeWhile_cons_of_neg (by simp [Event.sent?]),
    List.append_nil]

/-! ## The answers about statuses -/

/-- Whether an event answers a query for a status. -/
def AnswersStatus (event : Event) : Prop :=
  ∃ account outcome, event = .answered (statusQuery account) outcome

theorem not_answersStatus_of_reads {event : Event} (reads : ReadsCollection config event) :
    ¬ AnswersStatus event := by
  intro answers
  rcases answers with ⟨account, outcome, rfl⟩
  rcases reads with ⟨method, known, -, rfl⟩
  have other : Text.ofString "get_status" ∉ readMethods := by decide
  exact other known

theorem not_answersStatus_of_writtenEvents {target : Batch.Target} {gas : Int} {total : Nat}
    {batches : List Batch} :
    ∀ event ∈ Batch.writtenEvents target gas total batches, ¬ AnswersStatus event := by
  intro event member answers
  rcases answers with ⟨account, outcome, rfl⟩
  simp [Batch.writtenEvents, Batch.events] at member

theorem not_answersStatus_of_stoppedEvents {target : Batch.Target} {gas : Int} {total : Nat}
    {done : List Batch} {batch : Batch} {cause : Failure} :
    ∀ event ∈ Batch.stoppedEvents target gas total done batch cause, ¬ AnswersStatus event := by
  intro event member answers
  rcases answers with ⟨account, outcome, rfl⟩
  simp [Batch.stoppedEvents, Batch.writtenEvents, Batch.events] at member

/-- A session in which both preconditions were met, and no status was asked for after that. -/
def Admitted (config : Config) (session : Session) : Prop :=
  ∃ rest, session.trace = admission config ++ rest ∧ ∀ event ∈ rest, ¬ AnswersStatus event

/-- An answer about the source after which the preconditions are met is the right one. -/
theorem Admitted.source (admitted : Admitted config session)
    (apart : config.source ≠ config.destination) {answer : Json}
    (answered : .answered (statusQuery config.source) (.ok answer) ∈ session.trace) :
    answer = "ReadOnly" := by
  rcases admitted with ⟨rest, trace, quiet⟩
  rw [trace, List.mem_append] at answered
  rcases answered with met | late
  · simp [admission, Query.exchange, statusQuery, apart] at met
    exact met
  · exact absurd ⟨_, _, rfl⟩ (quiet _ late)

theorem Admitted.destination (admitted : Admitted config session)
    (apart : config.source ≠ config.destination) {answer : Json}
    (answered : .answered (statusQuery config.destination) (.ok answer) ∈ session.trace) :
    answer = "Genesis" := by
  rcases admitted with ⟨rest, trace, quiet⟩
  rw [trace, List.mem_append] at answered
  rcases answered with met | late
  · simp [admission, Query.exchange, statusQuery, apart.symm] at met
    exact met
  · exact absurd ⟨_, _, rfl⟩ (quiet _ late)

/-! ## The way to the first call -/

section

variable [Platform]

/-- A session whose first call comes after everything is verified. -/
def GatePassed (network : Network (StateM World)) (config : Config) (session : Session) : Prop :=
  config.dryRun = false ∧ ∃ summary reads call outcome more,
    Verified network config summary session.nodes session.accounts reads ∧
    session.trace = reads ++ .called call outcome :: more

theorem Verified.gatePassed {summary : Summary} {start : Session} {reads more : List Event}
    {call : Call} {outcome : Except Failure Unit} (wet : config.dryRun = false)
    (verified : Verified network config summary start.nodes start.accounts reads)
    (fresh : start.journal = [])
    (logs : start.Logs (reads ++ .called call outcome :: more) later) :
    GatePassed network config later := by
  refine ⟨wet, summary, reads, call, outcome, more, ?_, logs.trace_of_fresh fresh⟩
  rwa [logs.nodes_eq, logs.accounts_eq]

theorem Course.gatePassed (course : Course network config { tree } failure later) :
    later.calls = [] ∨ GatePassed network config later := by
  cases course with
  | refused refused logs => exact .inl ((logs.calls_of_fresh rfl).trans refused.calls)
  | unread explained admitted early known logs =>
      refine .inl ?_
      rw [logs.calls_of_fresh rfl, Event.calls_append, calls_admission,
        calls_of_readsCollection known]
      rfl
  | dry verified dry logs => exact .inl ((logs.calls_of_fresh rfl).trans verified.calls)
  | countRefused verified wet fails logs => exact .inr (Verified.gatePassed wet verified rfl logs)
  | nodesStopped verified wet split logs =>
      exact .inr (Verified.gatePassed wet verified rfl logs)
  | accountsStopped verified wet split logs =>
      exact .inr (Verified.gatePassed wet verified rfl logs)
  | completed verified wet logs =>
      exact .inr (Verified.gatePassed wet verified rfl logs)

theorem Verified.admitted {summary : Summary} {nodes accounts : List Json} {start : Session}
    {reads more : List Event}
    (verified : Verified network config summary nodes accounts reads)
    (fresh : start.journal = []) (logs : start.Logs (reads ++ more) later)
    (quiet : ∀ event ∈ more, ¬ AnswersStatus event) : Admitted config later := by
  rcases verified.read with ⟨nodeReads, accountReads, nodesCollected, accountsCollected, rfl⟩
  refine ⟨nodeReads ++ accountReads ++ more, ?_, ?_⟩
  · rw [logs.trace_of_fresh fresh]
    simp only [List.append_assoc]
  · simp only [List.forall_mem_append]
    exact ⟨⟨fun event member => not_answersStatus_of_reads
        (nodesCollected.reads nodeCountKnown nodesKnown event member),
      fun event member => not_answersStatus_of_reads
        (accountsCollected.reads accountCountKnown accountsKnown event member)⟩, quiet⟩

/-- A course that a precondition stops leaves nothing behind but the answers. -/
theorem Course.admitted (course : Course network config { tree } failure later) :
    (∃ reason, failure = some reason ∧ Refused network config later.trace reason ∧
      later.stage = .start) ∨ Admitted config later := by
  cases course with
  | @refused reason trace _ refused logs =>
      refine .inl ⟨reason, rfl, ?_, ?_⟩
      · rwa [logs.trace_of_fresh rfl]
      · rcases logs with ⟨events, rfl, -⟩
        rfl
  | unread explained admitted early known logs =>
      exact .inr ⟨_, logs.trace_of_fresh rfl,
        fun event member => not_answersStatus_of_reads (known event member)⟩
  | @dry _ _ _ reads _ verified dry logs =>
      rw [← List.append_nil reads] at logs
      exact .inr (verified.admitted rfl logs (by simp))
  | countRefused verified wet fails logs =>
      refine .inr (verified.admitted rfl logs ?_)
      simp [AnswersStatus]
  | nodesStopped verified wet split logs =>
      refine .inr (verified.admitted rfl logs ?_)
      simp only [List.forall_mem_append]
      exact ⟨by simp [AnswersStatus], not_answersStatus_of_stoppedEvents⟩
  | accountsStopped verified wet split logs =>
      refine .inr (verified.admitted rfl logs ?_)
      simp only [List.forall_mem_append]
      exact ⟨by simp [AnswersStatus], not_answersStatus_of_writtenEvents,
        not_answersStatus_of_stoppedEvents⟩
  | completed verified wet logs =>
      refine .inr (verified.admitted rfl logs ?_)
      simp only [List.forall_mem_append]
      exact ⟨by simp [AnswersStatus], not_answersStatus_of_writtenEvents,
        not_answersStatus_of_writtenEvents⟩

/-! ## The gate -/

/-- A run that ends at the start, after a trace, because a precondition is not met: its steps fail
with that, and its results say so. -/
structure StoppedAtStart (host : Host (StateM World)) (config : Config) (folder : RunFolder)
    (tree : FileTree) (world : World) (trace : List Event) (failure : Failure) : Prop where
  trace : (ending host config folder tree world).2.trace = trace
  stage : (ending host config folder tree world).2.stage = .start
  outcome : (stepsEnding host config tree world).1 = .error failure
  reported : ∀ results, (ending host config folder tree world).1 = .ok results →
    results.success = false ∧ results.stage = .start ∧
      results.stop = some ⟨failure.message, failure.reportName⟩

theorem Refused.source_of_answer {trace : List Event} {reason : Failure}
    (refused : Refused network config trace reason) (apart : config.source ≠ config.destination)
    {answer : Json} (other : answer ≠ "ReadOnly")
    (answered : .answered (statusQuery config.source) (.ok answer) ∈ trace) :
    trace = (statusQuery config.source).exchange (.ok answer) ∧
      reason = refusal "source" config.source .readOnly answer := by
  cases refused <;> simp_all [Query.exchange, statusQuery]

theorem Refused.destination_of_answer {trace : List Event} {reason : Failure}
    (refused : Refused network config trace reason) (apart : config.source ≠ config.destination)
    {answer : Json}
    (answered : .answered (statusQuery config.destination) (.ok answer) ∈ trace) :
    trace = (statusQuery config.source).exchange (.ok "ReadOnly") ++
        (statusQuery config.destination).exchange (.ok answer) ∧
      reason = refusal "destination" config.destination .genesis answer := by
  have apart' := apart.symm
  cases refused <;> simp_all [Query.exchange, statusQuery]

/-- The failure quotes an answer that can be quoted. -/
theorem refusal_of_fits {label account : Text} {expected : Status} {answer : Json}
    (fits : Place.status.Fits answer) :
    refusal label account expected answer = .precondition label account expected answer := by
  rw [refusal, Place.unworded?_eq_none_iff.mpr fits]

theorem refusal_of_unworded {label account : Text} {expected : Status} {answer : Json}
    {fault : Unworded} (unquoted : Place.status.unworded? answer = some fault) :
    refusal label account expected answer = .unworded fault := by
  rw [refusal, unquoted]

theorem stoppedAtStart {host : Host (StateM World)} {folder : RunFolder} {world : World}
    {trace : List Event} {reason : Failure}
    (outcome : stepsEnding host config tree world = (.error reason, stopped))
    (keeps : Keeps stopped (ending host config folder tree world).2)
    (reports : ∀ results, (ending host config folder tree world).1 = .ok results →
      Reports config (some reason) stopped results)
    (traced : stopped.trace = trace) (atStart : stopped.stage = .start) :
    StoppedAtStart host config folder tree world trace reason where
  trace := keeps.trace.trans traced
  stage := keeps.stage.trans atStart
  outcome := congrArg Prod.fst outcome
  reported := by
    intro results finished
    have report := reports results finished
    refine ⟨?_, report.stage.trans atStart, ?_⟩
    · simp [Results.success, report.stop]
    · rw [report.stop, Option.map_some]

variable [Platform.PrintsAll]

/-- Right before its first call a run has verified everything, and it is not dry. If a status is
not the one that it has to be, the run ends with the answer that says so: it fails with a
precondition that carries the answer, or, if the answer is nested too deep or holds too long an
integer for a message, because of that. -/
theorem first_call_verified (host : Host (StateM World)) (config : Config) (folder : RunFolder)
    (tree : FileTree) (world : World) (usable : config.isUsable) :
    let session := (ending host config folder tree world).2
    (∀ before call made after, session.trace = before ++ .called call made :: after →
      Event.calls before = [] →
        config.dryRun = false ∧
        (∃ summary,
          Verified host.network config summary session.nodes session.accounts before) ∧
        ∀ record ∈ session.accounts, ∃ balance, Balance.parseRecord record = .ok balance) ∧
    (∀ answer : Json, answer ≠ "ReadOnly" →
      .answered (statusQuery config.source) (.ok answer) ∈ session.trace →
        (Place.status.Fits answer → StoppedAtStart host config folder tree world
          ((statusQuery config.source).exchange (.ok answer))
          (.precondition "source" config.source .readOnly answer)) ∧
        ∀ fault, Place.status.unworded? answer = some fault →
          StoppedAtStart host config folder tree world
            ((statusQuery config.source).exchange (.ok answer)) (.unworded fault)) ∧
    (∀ answer : Json, answer ≠ "Genesis" →
      .answered (statusQuery config.destination) (.ok answer) ∈ session.trace →
        (Place.status.Fits answer → StoppedAtStart host config folder tree world
          ((statusQuery config.source).exchange (.ok "ReadOnly") ++
            (statusQuery config.destination).exchange (.ok answer))
          (.precondition "destination" config.destination .genesis answer)) ∧
        ∀ fault, Place.status.unworded? answer = some fault →
          StoppedAtStart host config folder tree world
            ((statusQuery config.source).exchange (.ok "ReadOnly") ++
              (statusQuery config.destination).exchange (.ok answer)) (.unworded fault)) := by
  intro session
  have apart := (Config.isUsable_iff.mp usable).apart
  rcases ending_course host folder tree world usable with
    ⟨failure, stopped, outcome, course, keeps, reports⟩
  refine ⟨?_, ?_, ?_⟩
  · intro before call made after split first
    rw [show session.trace = stopped.trace from keeps.trace] at split
    rcases course.gatePassed with silent | ⟨wet, summary, reads, _, _, _, verified, split'⟩
    · rw [Session.calls_eq, split, Event.calls_append, List.append_eq_nil_iff] at silent
      exact nomatch silent.2
    · have same : before = reads := (eq_takeWhile_of_split split first).trans
        (eq_takeWhile_of_split split' verified.calls).symm
      rw [same, show session.nodes = stopped.nodes from keeps.nodes,
        show session.accounts = stopped.accounts from keeps.accounts]
      exact ⟨wet, ⟨summary, verified⟩, Balance.parse_of_sum verified.total⟩
  · intro answer other answered
    rw [show session.trace = stopped.trace from keeps.trace] at answered
    rcases course.admitted with ⟨reason, rfl, refused, atStart⟩ | admitted
    · rcases refused.source_of_answer apart other answered with ⟨traced, rfl⟩
      have stops := stoppedAtStart outcome keeps reports traced atStart
      exact ⟨fun fits => refusal_of_fits fits ▸ stops,
        fun fault unquoted => refusal_of_unworded unquoted ▸ stops⟩
    · exact absurd (admitted.source apart answered) other
  · intro answer other answered
    rw [show session.trace = stopped.trace from keeps.trace] at answered
    rcases course.admitted with ⟨reason, rfl, refused, atStart⟩ | admitted
    · rcases refused.destination_of_answer apart answered with ⟨traced, rfl⟩
      have stops := stoppedAtStart outcome keeps reports traced atStart
      exact ⟨fun fits => refusal_of_fits fits ▸ stops,
        fun fault unquoted => refusal_of_unworded unquoted ▸ stops⟩
    · exact absurd (admitted.destination apart answered) other

end

attribute [local instance] Platform.accepting Platform.printsAll_accepting

/-- The fifteenth event of the small migration is its first call, after everything is verified; in
the other direction its source is not read-only. -/
theorem first_call_verified_pairwise :
    (∃ summary, Verified pairwiseHost.network pairwise summary (pairwiseEnding 4).2.nodes
      (pairwiseEnding 4).2.accounts ((pairwiseEnding 4).2.trace.take 14)) ∧
    let reversed := { pairwise with source := "new.testnet", destination := "old.testnet" }
    StoppedAtStart pairwiseHost reversed (runFolder reversed ⟨2024, 1, 1, 0, 0, 0, 0⟩) ⟨[], []⟩ 4
      ((statusQuery "new.testnet").exchange (.ok "Genesis"))
      (.precondition "source" "new.testnet" .readOnly "Genesis") := by
  constructor
  · have gate := (first_call_verified pairwiseHost pairwise
      (runFolder pairwise ⟨2024, 1, 1, 0, 0, 0, 0⟩) ⟨[], []⟩ 4 (by decide)).1
    have first : (pairwiseEnding 4).2.trace.drop 14 =
        .called (nodeCountCall pairwise 3) (.ok ()) :: (pairwiseEnding 4).2.trace.drop 15 := rfl
    have split := (List.take_append_drop 14 (pairwiseEnding 4).2.trace).symm
    rw [first] at split
    exact (gate _ _ _ _ split rfl).2.1
  · intro reversed
    have refused := (first_call_verified pairwiseHost reversed
      (runFolder reversed ⟨2024, 1, 1, 0, 0, 0, 0⟩) ⟨[], []⟩ 4 (by decide)).2.1
    have traced : (ending pairwiseHost reversed (runFolder reversed ⟨2024, 1, 1, 0, 0, 0, 0⟩)
        ⟨[], []⟩ 4).2.trace = (statusQuery "new.testnet").exchange (.ok "Genesis") := rfl
    refine (refused "Genesis" (fun same => absurd (Json.str.inj same) (by decide)) ?_).1
      (Place.unworded?_eq_none_iff.mp rfl)
    rw [traced]
    exact List.mem_cons_of_mem _ List.mem_cons_self

end Migration

end SocialMigration
