import SocialMigration.Proofs.Migration.Alike
import SocialMigration.Proofs.Migration.Saving
import SocialMigration.Proofs.Migration.WritePlan
import SocialMigration.Proofs.Page.Alike

/-!
# What a dry run predicts

A dry run and a live one go in step as long as they read, if the answers to reads do not depend on
what sets their worlds apart, such as earlier writes. After that the dry run is over, and the live
one only writes: it asks nothing more, keeps its summary, and does not fall behind the stage that
the dry run has reached.
-/

namespace SocialMigration

/-- The queries that a session has issued, in order. -/
def Session.queries (session : Session) : List Query :=
  session.events.filterMap Event.query?

theorem Session.queries_eq (session : Session) :
    session.queries = session.trace.filterMap Event.query? :=
  (Event.filterMap_trace Event.query? (fun _ => rfl) session.events).symm

namespace Migration

variable {World : Type} {network : Network (StateM World)} {config : Config}
  {session later : Session} {world : World}

/-! ## Reading -/

section

variable [Platform] [Platform.PrintsAll]

/-- Before anything is written, everything is verified or the run has not got as far. -/
theorem readAll_stage (schedule : Schedule) (tree : FileTree) (usable : config.isUsable) :
    Run.Ends (readAll network schedule config) { tree } world
      (fun _ later _ => later.stage = .reported ∧ later.summary.isSome = true ∧ later.calls = [])
      (fun _ later _ => later.stage ≤ .accountsFetched ∧ later.calls = []) := by
  apply (readAll_ends schedule usable).mono
  · intro count later _ ended
    rcases ended with ⟨summary, nodes, accounts, reads, -, verified, logs⟩
    refine ⟨logs.stage_eq, ?_, (logs.calls_of_fresh rfl).trans verified.calls⟩
    rcases logs with ⟨events, rfl, -⟩
    rfl
  · intro failure later _ ended
    rcases ended with ⟨trace, refused, logs⟩ | ⟨-, stage, nodes, accounts, reads, -, early, known,
      logs⟩
    · rw [logs.stage_eq, logs.calls_of_fresh rfl]
      exact ⟨(by decide : Stage.start ≤ .accountsFetched), refused.calls⟩
    · rw [logs.stage_eq, logs.calls_of_fresh rfl, Event.calls_append, calls_admission]
      exact ⟨early, calls_of_readsCollection known⟩

end

/-! ## Writing -/

/-- What a session is like after writes from another one on. -/
structure WritesOn (session later : Session) : Prop where
  queries : later.queries = session.queries
  summary : later.summary = session.summary
  stage : .reported ≤ session.stage → .reported ≤ later.stage

theorem WritesOn.trans {first second third : Session} (front : WritesOn first second)
    (back : WritesOn second third) : WritesOn first third where
  queries := back.queries.trans front.queries
  summary := back.summary.trans front.summary
  stage := back.stage ∘ front.stage

/-- A session writes on if it logs no query after a change that keeps its journal and summary. -/
theorem writesOn_of_logs {changed : Session} {trace : List Event}
    (logs : changed.Logs trace later) (silent : trace.filterMap Event.query? = [])
    (journal : changed.journal = session.journal) (summary : changed.summary = session.summary)
    (stage : .reported ≤ session.stage → .reported ≤ changed.stage) : WritesOn session later where
  queries := by
    rw [Session.queries_eq, logs.trace_eq, List.filterMap_append, silent, List.append_nil,
      Session.queries_eq, Session.trace, Session.events, journal]
    rfl
  summary := by
    rcases logs with ⟨events, rfl, -⟩
    exact summary
  stage := by
    rw [logs.stage_eq]
    exact stage

theorem queries_writtenEvents {target : Batch.Target} {gas : Int} {total : Nat}
    (batches : List Batch) :
    (Batch.writtenEvents target gas total batches).filterMap Event.query? = [] := by
  induction batches with
  | nil => rfl
  | cons batch batches ih => exact ih

theorem queries_stoppedEvents {target : Batch.Target} {gas : Int} {total : Nat}
    (done : List Batch) (batch : Batch) (cause : Failure) :
    (Batch.stoppedEvents target gas total done batch cause).filterMap Event.query? = [] := by
  rw [Batch.stoppedEvents, List.filterMap_append, queries_writtenEvents]
  rfl

section

variable [Platform] [Platform.PrintsAll]

/-- What holds of a session and one that logs writes after it holds of the steps that write, if it
can be chained. -/
theorem writeAll_related (related : Session → Session → Prop)
    (trans : ∀ {first second third : Session}, related first second → related second third →
      related first third)
    (logged : ∀ {session changed later : Session} {trace : List Event}, changed.Logs trace later →
      trace.filterMap Event.query? = [] → changed.journal = session.journal →
      changed.summary = session.summary →
      (.reported ≤ session.stage → .reported ≤ changed.stage) → related session later)
    (usable : config.isUsable) (count : Nat) :
    Run.Ends (writeAll network config count) session world
      (fun _ later _ => related session later) (fun _ later _ => related session later) := by
  rcases BatchLimits.ofSettings_ok usable with ⟨limits, fixed, size, gas⟩
  simp only [writeAll, Run.ends_bind, Run.ends_ofExcept, fixed, ends_advance]
  apply (initializeNodeCount_ends count).mono
  · intro _ counted _ logs
    have counting : related session counted :=
      logged logs rfl rfl rfl fun _ => (by decide : Stage.reported ≤ .nodeCountInitialized)
    apply (commitNodes_ends usable size gas).mono
    · intro _ written _ logs
      have writing : related counted written :=
        logged logs (queries_writtenEvents _) rfl rfl
          fun _ => (by decide : Stage.reported ≤ .nodesCommitted)
      apply (commitAccounts_ends usable size gas).mono
      · intro _ later _ logs
        have finishing : related written later :=
          logged logs (queries_writtenEvents _) rfl rfl
            fun _ => (by decide : Stage.reported ≤ .accountsCommitted)
        apply trans (trans (trans counting writing) finishing)
        exact logged (Session.logs_printed _ _) rfl rfl rfl
          fun _ => (by decide : Stage.reported ≤ .done)
      · intro failure later _ ended
        rcases ended with ⟨done, batch, rest, cause, -, -, logs⟩
        exact trans (trans counting writing) (logged logs (queries_stoppedEvents ..) rfl rfl id)
    · intro failure later _ ended
      rcases ended with ⟨done, batch, rest, cause, -, -, logs⟩
      exact trans counting (logged logs (queries_stoppedEvents ..) rfl rfl id)
  · intro failure later _ ended
    exact logged ended.2 rfl rfl rfl id

/-- The steps that write ask nothing and keep what has been reported. -/
theorem writeAll_writesOn (usable : config.isUsable) (count : Nat) :
    Run.Ends (writeAll network config count) session world
      (fun _ later _ => WritesOn session later) (fun _ later _ => WritesOn session later) :=
  writeAll_related WritesOn WritesOn.trans writesOn_of_logs usable count

end

/-! ## Both runs -/

/-- The likeness of a dry run and a live one: queries are seen, nothing else is. -/
def dryLikeness (alike : World → World → Prop) : Likeness World where
  Seen := Query
  view := Event.query?
  hidden _ := rfl
  worlds := alike

/-- A host whose reads and clock do not tell worlds apart that are alike. A relation of worlds may
leave open whatever reads do not depend on, such as what has been written; equality leaves nothing
open. -/
structure Host.RepeatsReads (host : Host (StateM World)) (alike : World → World → Prop) : Prop where
  ask : ∀ query world world', alike world world' →
    ((host.network.ask query).run world).1.outcome =
        ((host.network.ask query).run world').1.outcome ∧
      alike ((host.network.ask query).run world).2 ((host.network.ask query).run world').2
  now : ∀ world world', alike world world' →
    alike (host.now.run world).2 (host.now.run world').2

/-- The ways in which the steps of a dry run and of a live one end together. -/
inductive Foretold (alike : World → World → Prop) :
    Except Failure Unit × Session → Except Failure Unit × Session → Prop where
  /-- Both fail before the first write, and alike. -/
  | stopped {failure : Failure} {read read' : Session} :
      (dryLikeness alike).Sessions read read' → read.stage ≤ .accountsFetched →
      read.calls = [] → read'.calls = [] →
      Foretold alike (.error failure, read) (.error failure, read')
  /-- The dry run ends where the live one goes on to write. -/
  | passed {outcome : Except Failure Unit} {read read' dry live : Session} :
      (dryLikeness alike).Sessions read read' → read.stage = .reported →
      read.summary.isSome = true → read.calls = [] →
      Keeps read dry → WritesOn read' live →
      Foretold alike (.ok (), dry) (outcome, live)

section

variable [Platform]

variable [Platform.PrintsAll] in
/-- Nothing that is read shows whether worlds are alike or the same. -/
theorem readAll_steady {host : Host (StateM World)} {alike : World → World → Prop}
    (repeats : host.RepeatsReads alike) (usable : config.isUsable) :
    (dryLikeness alike).Steady (readAll host.network host.schedule config) := by
  rcases PageLimits.ofSettings_ok usable with ⟨limits, fixed, -⟩
  have answers (query : Query) : (dryLikeness alike).Answers host.network query :=
    repeats.ask query
  apply readAll_parts fixed fixed
  · intro account method
    exact answers _
  · intro count _
    exact Page.fetchAll_steady (fun _ => answers _) _ _ _
  · intro count _
    exact Page.fetchAll_steady (fun _ => answers _) _ _ _

section Steps

variable {schedule : Schedule} {failure : Failure} {count : Nat} {read : Session} {after : World}

/-- A failure among the steps that read ends dry runs and live ones. -/
theorem run_steps_of_error (dryRun : Bool)
    (ran : (Run.startFrom session (readAll network schedule config)).run world =
      ((.error failure, read), after)) :
    (Run.startFrom session (steps network schedule { config with dryRun })).run world =
      ((.error failure, read), after) :=
  Run.run_bind_of_error ran

variable [Platform.PrintsAll] in
/-- A dry run only says that it ends after the steps that read. -/
theorem run_steps_dry
    (ran : (Run.startFrom session (readAll network schedule config)).run world =
      ((.ok count, read), after)) :
    ∃ lines : List Text,
      (Run.startFrom session (steps network schedule { config with dryRun := true })).run world =
        ((.ok (), read.extend (lines.map .printed)), after) := by
  have dry : (Run.startFrom session (steps network schedule
      { config with dryRun := true })).run world = _ :=
    Run.run_bind_of_ok ran
  rw [dry]
  exact ⟨_, Run.run_printBlock ..⟩

/-- A live run goes on to write. -/
theorem run_steps_live
    (ran : (Run.startFrom session (readAll network schedule config)).run world =
      ((.ok count, read), after)) :
    (Run.startFrom session (steps network schedule { config with dryRun := false })).run world =
      (Run.startFrom read (writeAll network config count)).run after :=
  Run.run_bind_of_ok ran

end Steps

variable [Platform.PrintsAll] in
/-- Nothing that the steps read from shows whether the run is a dry one. -/
theorem foretold (host : Host (StateM World)) {alike : World → World → Prop}
    (repeats : host.RepeatsReads alike) (usable : config.isUsable) (tree tree' : FileTree)
    {world world' : World} (start : alike world world') :
    Foretold alike (stepsEnding host { config with dryRun := true } tree world)
      (stepsEnding host { config with dryRun := false } tree' world') := by
  have ended := readAll_steady repeats usable { tree } { tree := tree' } _ _
    ⟨rfl, rfl, rfl, rfl, rfl, rfl, rfl⟩ (repeats.now world world' start)
  have stage (tree : FileTree) (world : World) :
      Run.Ends (readAll host.network host.schedule config) { tree } world _ _ :=
    readAll_stage host.schedule tree usable
  unfold stepsEnding
  rcases ran : (Run.startFrom { tree } (readAll host.network host.schedule config)).run
    (host.now.run world).2 with ⟨⟨outcome, read⟩, after⟩
  rcases ran' : (Run.startFrom { tree := tree' }
    (readAll host.network host.schedule config)).run (host.now.run world').2
    with ⟨⟨outcome', read'⟩, after'⟩
  have early := (stage _ _).of_run ran
  have early' := (stage _ _).of_run ran'
  rw [ran, ran'] at ended
  rcases ended with ⟨same, sessions, -⟩
  change outcome = outcome' at same
  subst same
  cases outcome with
  | error failure =>
      rw [run_steps_of_error true ran, run_steps_of_error false ran']
      exact .stopped sessions early.1 early.2 early'.2
  | ok count =>
      rcases run_steps_dry ran with ⟨lines, dry⟩
      rw [dry, run_steps_live ran']
      have written : Run.Ends (writeAll host.network config count) read' after' _ _ :=
        writeAll_writesOn usable count
      rcases writing : (Run.startFrom read' (writeAll host.network config count)).run after'
        with ⟨⟨result, last⟩, _⟩
      have writes := written.of_run writing
      apply Foretold.passed sessions early.1 early.2.1 early.2.2 (keeps_lines read lines)
      cases result <;> exact writes

end

/-- What a dry run says about a live one. -/
structure Predicts (dry live : Except Failure Results × Session) : Prop where
  /-- Both issue the same queries in the same order. -/
  queries : dry.2.queries = live.2.queries
  /-- The dry run writes nothing. -/
  silent : dry.2.calls = []
  /-- The dry run succeeds exactly if the live one gets as far as the report. -/
  success_iff : ∀ results results', dry.1 = .ok results → live.1 = .ok results' →
    (results.success = true ↔ .reported ≤ results'.stage)
  /-- A summary of the dry run is that of the live one. -/
  summary : ∀ results results', dry.1 = .ok results → live.1 = .ok results' →
    results.success = true →
      ∃ summary, results.summary = some summary ∧ results'.summary = some summary
  /-- A failure of the dry run is that of the live one, which then writes nothing either. -/
  failure : ∀ results results', dry.1 = .ok results → live.1 = .ok results' →
    results.success = false →
      ∃ stop, results.stop = some stop ∧ results'.stop = some stop ∧
        results'.stage = results.stage ∧ live.2.calls = []

theorem Keeps.queries {stopped later : Session} (keeps : Keeps stopped later) :
    later.queries = stopped.queries := by
  rw [Session.queries_eq, Session.queries_eq, keeps.trace]

section Predicts

variable {alike : World → World → Prop} {dryConfig liveConfig : Config} {read read' : Session}
  {dry live : Except Failure Results × Session}

/-- If both runs fail alike before the first write, the failure is foretold. -/
theorem predicts_of_stopped {cause : Failure} (sessions : (dryLikeness alike).Sessions read read')
    (early : read.stage ≤ .accountsFetched) (silent : read.calls = []) (silent' : read'.calls = [])
    (keeps : Keeps read dry.2) (keeps' : Keeps read' live.2)
    (reports : ∀ results, dry.1 = .ok results → Reports dryConfig (some cause) read results)
    (reports' : ∀ results, live.1 = .ok results → Reports liveConfig (some cause) read' results) :
    Predicts dry live := by
  have failed (results : Results) (finished : dry.1 = .ok results) : results.success = false := by
    rw [Results.success, (reports results finished).stop]
    rfl
  constructor
  case queries => rw [keeps.queries, keeps'.queries]; exact sessions.seen
  case silent => exact keeps.calls.trans silent
  case success_iff =>
    intro results results' finished finished'
    rw [failed results finished, (reports' results' finished').stage, ← sessions.stage]
    constructor
    · intro succeeded
      cases succeeded
    · intro late
      exact absurd (Nat.le_trans late early) (by decide)
  case summary =>
    intro results results' finished _ succeeded
    rw [failed results finished] at succeeded
    cases succeeded
  case failure =>
    intro results results' finished finished' _
    refine ⟨_, (reports results finished).stop, (reports' results' finished').stop, ?_,
      keeps'.calls.trans silent'⟩
    rw [(reports results finished).stage, (reports' results' finished').stage, sessions.stage]

/-- If the dry run ends where the live one goes on to write, the summary is foretold. -/
theorem predicts_of_passed {failure : Option Failure} {stopped stopped' : Session}
    (sessions : (dryLikeness alike).Sessions read read') (reached : read.stage = .reported)
    (counted : read.summary.isSome = true) (silent : read.calls = []) (kept : Keeps read stopped)
    (writes : WritesOn read' stopped') (keeps : Keeps stopped dry.2)
    (keeps' : Keeps stopped' live.2)
    (reports : ∀ results, dry.1 = .ok results → Reports dryConfig none stopped results)
    (reports' : ∀ results, live.1 = .ok results → Reports liveConfig failure stopped' results) :
    Predicts dry live := by
  have succeeded (results : Results) (finished : dry.1 = .ok results) : results.success = true :=
    (reports results finished).success_iff.mpr rfl
  constructor
  case queries =>
    rw [keeps.queries, kept.queries, keeps'.queries, writes.queries]
    exact sessions.seen
  case silent => exact (kept.trans keeps).calls.trans silent
  case success_iff =>
    intro results results' finished finished'
    have late : .reported ≤ stopped'.stage := writes.stage (by
      rw [← sessions.stage, reached]
      exact Nat.le_refl _)
    rw [(reports' results' finished').stage]
    exact ⟨fun _ => late, fun _ => succeeded results finished⟩
  case summary =>
    intro results results' finished finished' _
    rcases Option.isSome_iff_exists.mp counted with ⟨summary, same⟩
    refine ⟨summary, ?_, ?_⟩
    · rw [(reports results finished).summary, kept.summary, same]
    · rw [(reports' results' finished').summary, writes.summary, ← sessions.summary, same]
  case failure =>
    intro results results' finished _ failed
    rw [succeeded results finished] at failed
    cases failed

end Predicts

/-- A dry run predicts the live one with the same configuration over a network whose answers do not
depend on what sets the worlds of the two apart. Either run returns its results, unless they are to
be saved and cannot be. -/
theorem dryRun_predicts [Platform] [Platform.PrintsAll] (host : Host (StateM World))
    (alike : World → World → Prop)
    (repeats : host.RepeatsReads alike) (config : Config) (usable : config.isUsable)
    (folder folder' : RunFolder) (tree tree' : FileTree) (world world' : World)
    (start : alike world world') :
    let dry := ending host { config with dryRun := true } folder tree world
    let live := ending host { config with dryRun := false } folder' tree' world'
    Predicts dry live ∧
      ((∃ results, dry.1 = .ok results) ↔ (config.saveResults = true → folder.Saves tree)) ∧
      ((∃ results, live.1 = .ok results) ↔ (config.saveResults = true → folder'.Saves tree')) := by
  intro dry live
  refine ⟨?_, ending_returns_iff host folder tree world usable,
    ending_returns_iff host folder' tree' world' usable⟩
  have both := foretold host repeats usable tree tree' start
  rcases ending_course host folder tree world
    (show { config with dryRun := true }.isUsable from usable) with
    ⟨failure, stopped, dryEnd, -, keeps, reports⟩
  rcases ending_course host folder' tree' world'
    (show { config with dryRun := false }.isUsable from usable) with
    ⟨failure', stopped', liveEnd, -, keeps', reports'⟩
  generalize stepsEnding host { config with dryRun := true } tree world = dryEnded at both dryEnd
  generalize stepsEnding host { config with dryRun := false } tree' world' = liveEnded
    at both liveEnd
  cases both with
  | stopped sessions early silent silent' =>
      rcases Prod.mk.inj dryEnd with ⟨failed, rfl⟩
      rcases Prod.mk.inj liveEnd with ⟨failed', rfl⟩
      rcases outcomeOf_eq_error.mp failed.symm with rfl
      rcases outcomeOf_eq_error.mp failed'.symm with rfl
      exact predicts_of_stopped sessions early silent silent' keeps keeps' reports reports'
  | passed sessions reached counted silent kept writes =>
      rcases Prod.mk.inj dryEnd with ⟨passed, rfl⟩
      rcases Prod.mk.inj liveEnd with ⟨-, rfl⟩
      rcases outcomeOf_eq_ok.mp passed.symm with rfl
      exact predicts_of_passed sessions reached counted silent kept writes keeps keeps' reports
        reports'

attribute [local instance] Platform.accepting Platform.printsAll_accepting

/-- A dry run for which no call would go through predicts the live one for which four do. -/
theorem dryRun_predicts_pairwise :
    let dry := ending pairwiseHost { pairwise with dryRun := true }
      (runFolder pairwise ⟨2024, 1, 1, 0, 0, 0, 0⟩) ⟨[], []⟩ 0
    pairwiseHost.RepeatsReads (fun _ _ => True) ∧ pairwise.isUsable ∧
      dry.1.toOption.map Results.success = some true ∧ Predicts dry (pairwiseEnding 4) := by
  intro dry
  have repeats : pairwiseHost.RepeatsReads fun _ _ => True :=
    ⟨fun _ _ _ _ => ⟨rfl, trivial⟩, fun _ _ _ => trivial⟩
  have usable : pairwise.isUsable := by decide
  have succeeded : dry.1.toOption.map Results.success = some true := by decide
  exact ⟨repeats, usable, succeeded,
    (dryRun_predicts pairwiseHost _ repeats pairwise usable _ _ _ _ 0 4 trivial).1⟩

end Migration

end SocialMigration
