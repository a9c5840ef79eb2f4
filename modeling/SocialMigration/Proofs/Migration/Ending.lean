import SocialMigration.Proofs.Migration.Course
import SocialMigration.Proofs.Migration.Source

/-!
# How a run ends

A run takes one course, and its results say what is left of it. What happens after the last step,
when a failure is told and the results are put together and saved, leaves nothing in the trace and
changes nothing that the steps have reached, also if the failure cannot be told or the results
cannot be saved.
-/

namespace SocialMigration

namespace Migration

variable {World : Type}

/-- An outcome of which something can be seen is that of a run with results. -/
theorem results_of_seen {Seen : Type} {outcome : Except Failure Results} {view : Results → Seen}
    {seen : Seen} (shown : outcome.toOption.map view = some seen) :
    ∃ results, outcome = .ok results ∧ view results = seen := by
  cases outcome with
  | error failure => exact nomatch shown
  | ok results => exact ⟨results, rfl, Option.some.inj shown⟩

/-- The outcome of steps that a failure stops, if one does. -/
def outcomeOf (failure : Option Failure) : Except Failure Unit :=
  match failure with
  | some failure => .error failure
  | none => .ok ()

theorem outcomeOf_eq_error {failure : Option Failure} {cause : Failure} :
    outcomeOf failure = .error cause ↔ failure = some cause := by
  cases failure <;> simp [outcomeOf]

theorem outcomeOf_eq_ok {failure : Option Failure} :
    outcomeOf failure = .ok () ↔ failure = none := by
  cases failure <;> simp [outcomeOf]

/-- The session in which the steps have ended, with the place where a batch stopped them, and the
settings with which the next run goes on there. -/
def settled (failure : Option Failure) (stopped : Session) : Session × Option Text :=
  match failure with
  | some failure => resume failure stopped
  | none => (stopped, none)

/-- The results of a run whose steps have ended. -/
structure Reports (config : Config) (failure : Option Failure) (stopped : Session)
    (results : Results) : Prop where
  config : results.config = config
  stop : results.stop = failure.map fun failure => ⟨failure.message, failure.reportName⟩
  resumeHint : results.resumeHint = (settled failure stopped).2
  stage : results.stage = stopped.stage
  summary : results.summary = stopped.summary
  nodesCommitted : results.nodesCommitted = (settled failure stopped).1.nodesCommitted
  accountsCommitted : results.accountsCommitted = (settled failure stopped).1.accountsCommitted

theorem Reports.success_iff {config : Config} {failure : Option Failure} {stopped : Session}
    {results : Results} (reports : Reports config failure stopped results) :
    results.success = true ↔ failure = none := by
  rw [Results.success, reports.stop]
  cases failure <;> simp

/-- What a session keeps of an earlier one after the steps have ended. -/
structure Keeps (stopped later : Session) : Prop where
  trace : later.trace = stopped.trace
  stage : later.stage = stopped.stage
  nodes : later.nodes = stopped.nodes
  accounts : later.accounts = stopped.accounts
  summary : later.summary = stopped.summary

theorem Keeps.trans {first second third : Session} (front : Keeps first second)
    (back : Keeps second third) : Keeps first third where
  trace := back.trace.trans front.trace
  stage := back.stage.trans front.stage
  nodes := back.nodes.trans front.nodes
  accounts := back.accounts.trans front.accounts
  summary := back.summary.trans front.summary

theorem Keeps.calls {stopped later : Session} (keeps : Keeps stopped later) :
    later.calls = stopped.calls := by
  rw [Session.calls_eq, Session.calls_eq, keeps.trace]

theorem Keeps.succeeded {stopped later : Session} (keeps : Keeps stopped later) :
    later.succeeded = stopped.succeeded := by
  funext method
  rw [Session.succeeded_eq, Session.succeeded_eq, keeps.trace]

theorem Keeps.written {stopped later : Session} (keeps : Keeps stopped later) :
    later.written = stopped.written := by
  funext method
  rw [Session.written_eq, Session.written_eq, keeps.trace]

theorem keeps_lines (session : Session) (lines : List Text) :
    Keeps session (session.extend (lines.map .printed)) where
  trace := by simpa using (session.logs_printed lines).trace_eq
  stage := rfl
  nodes := rfl
  accounts := rfl
  summary := rfl

theorem keeps_tree (session : Session) (tree : FileTree) :
    Keeps session { session with tree } :=
  ⟨rfl, rfl, rfl, rfl, rfl⟩

theorem keeps_resume (failure : Failure) (session : Session) :
    Keeps session (resume failure session).1 := by
  unfold resume
  split
  · split
    · exact ⟨rfl, rfl, rfl, rfl, rfl⟩
    · split <;> exact ⟨rfl, rfl, rfl, rfl, rfl⟩
  · exact ⟨rfl, rfl, rfl, rfl, rfl⟩

theorem tree_resume (failure : Failure) (session : Session) :
    (resume failure session).1.tree = session.tree := by
  unfold resume
  split
  · split
    · rfl
    · split <;> rfl
  · rfl

/-- The text that is printed about what has stopped the steps. -/
def errorText (failure : Failure) : Text :=
  Text.join [0x0A] (errorLines failure)

section

variable [Platform]

/-- The outcome of a whole run that starts among the files of a tree, and the session it leaves
behind. -/
def ending (host : Host (StateM World)) (config : Config) (folder : RunFolder) (tree : FileTree)
    (world : World) : Except Failure Results × Session :=
  ((Run.startFrom { tree } (run host config folder)).run world).1

/-- The outcome of the steps alone of a run, and the session in which they end. -/
def stepsEnding (host : Host (StateM World)) (config : Config) (tree : FileTree) (world : World) :
    Except Failure Unit × Session :=
  ((Run.startFrom { tree } (steps host.network host.schedule config)).run
    (host.now.run world).2).1

/-- A run up to the point where its results are saved. -/
def reached (host : Host (StateM World)) (config : Config) : Run (StateM World) Results := do
  let startedAt ← Run.effect host.now
  let (stop, resumeHint) ← takeSteps host config
  let session ← Run.session
  let completedAt ← Run.effect host.now
  return {
    config, startedAt, completedAt, stop, resumeHint
    stage := session.stage
    summary := session.summary
    nodesCommitted := session.nodesCommitted
    accountsCommitted := session.accountsCommitted }

theorem run_eq (host : Host (StateM World)) (config : Config) (folder : RunFolder) :
    run host config folder = reached host config >>= fun results =>
      (if config.saveResults then saveResults folder results else pure ()) >>= fun _ =>
        pure results := by
  cases saves : config.saveResults <;>
    simp [run, reached, saves]

variable {host : Host (StateM World)} {config : Config} {session : Session} {world : World}

/-- The output takes what there is to say about the steps. -/
def Told (failure : Option Failure) : Prop :=
  ∀ cause, failure = some cause → Platform.refusal? (errorText cause) = none

/-- What is left to say about the steps follows from how they end, unless it cannot be said. -/
theorem takeSteps_ends :
    Run.Ends (takeSteps host config) session world
      (fun said later _ => ∃ failure stopped,
        ((Run.startFrom session (steps host.network host.schedule config)).run world).1 =
          (outcomeOf failure, stopped) ∧
        Told failure ∧
        said.1 = failure.map (fun failure => ⟨failure.message, failure.reportName⟩) ∧
        said.2 = (settled failure stopped).2 ∧
        later.nodesCommitted = (settled failure stopped).1.nodesCommitted ∧
        later.accountsCommitted = (settled failure stopped).1.accountsCommitted ∧
        Keeps stopped later ∧ later.tree = stopped.tree)
      (fun reason later _ => ∃ cause stopped report,
        ((Run.startFrom session (steps host.network host.schedule config)).run world).1 =
          (outcomeOf (some cause), stopped) ∧
        Platform.refusal? (errorText cause) = some report ∧ reason = .unprintable report ∧
        Keeps stopped later) := by
  rw [takeSteps, Run.ends_bind, Run.ends_attempt]
  apply Run.ends_run.mono
  · intro _ later after run
    exact ⟨none, later, congrArg Prod.fst run, nofun, rfl, rfl, rfl, rfl,
      ⟨rfl, rfl, rfl, rfl, rfl⟩, rfl⟩
  · intro failure later after run
    simp only [Run.ends_bind, Run.ends_session, Run.ends_update, Run.ends_printBlock_cases,
      Run.ends_pure]
    cases refused : Platform.refusal? (Text.join [0x0A] (errorLines failure)) with
    | none =>
        have told : Told (some failure) := by
          rintro _ ⟨⟩
          exact refused
        exact ⟨some failure, later, congrArg Prod.fst run, told, rfl, rfl, rfl, rfl,
          (keeps_resume failure later).trans (keeps_lines ..), tree_resume failure later⟩
    | some report =>
        exact ⟨failure, later, report, congrArg Prod.fst run, refused, rfl,
          keeps_resume failure later⟩

theorem saveResults_ends (folder : RunFolder) (results : Results) :
    Run.Ends (saveResults folder results) session world
      (fun _ later _ => Keeps session later) (fun _ later _ => Keeps session later) := by
  simp only [saveResults, Run.ends_bind, Run.ends_session, Run.ends_update, Run.ends_ofExcept,
    Run.ends_printBlock_cases]
  split
  · split
    · exact (keeps_tree session _).trans (keeps_lines ..)
    · exact keeps_tree session _
  · exact keeps_tree session _

/-- A run reports in its results how its steps end, unless that cannot be told. -/
theorem reached_ends (tree : FileTree) :
    Run.Ends (reached host config) { tree } world
      (fun results later _ => ∃ failure stopped,
        stepsEnding host config tree world = (outcomeOf failure, stopped) ∧ Told failure ∧
        Keeps stopped later ∧ later.tree = stopped.tree ∧
        Reports config failure stopped results)
      (fun reason later _ => ∃ cause stopped report,
        stepsEnding host config tree world = (outcomeOf (some cause), stopped) ∧
        Platform.refusal? (errorText cause) = some report ∧ reason = .unprintable report ∧
        Keeps stopped later) := by
  simp only [reached, Run.ends_bind, Run.ends_effect]
  refine takeSteps_ends.mono ?_ (fun _ _ _ => id)
  intro said later after ended
  cases said
  rcases ended with ⟨failure, stopped, outcome, told, rfl, rfl, nodes, accounts, keeps, files⟩
  simp only [Run.ends_session, Run.ends_pure]
  exact ⟨failure, stopped, outcome, told, keeps, files,
    rfl, rfl, rfl, keeps.stage, keeps.summary, nodes, accounts⟩

/-- A run that hands back results reports in them how its steps have ended, and its session is that
of the steps in any case. -/
theorem run_ends (folder : RunFolder) (tree : FileTree) :
    Run.Ends (run host config folder) { tree } world
      (fun results later _ => ∃ failure stopped,
        stepsEnding host config tree world = (outcomeOf failure, stopped) ∧
        Keeps stopped later ∧ Reports config failure stopped results)
      (fun _ later _ => ∃ failure stopped,
        stepsEnding host config tree world = (outcomeOf failure, stopped) ∧
        Keeps stopped later) := by
  rw [run_eq, Run.ends_bind]
  apply (reached_ends tree).mono
  · intro results later after ended
    rcases ended with ⟨failure, stopped, outcome, -, keeps, -, reports⟩
    split
    · rw [Run.ends_bind]
      apply (saveResults_ends folder results).mono
      · intro _ latest _ kept
        exact ⟨failure, stopped, outcome, keeps.trans kept, reports⟩
      · intro _ latest _ kept
        exact ⟨failure, stopped, outcome, keeps.trans kept⟩
    · exact ⟨failure, stopped, outcome, keeps, reports⟩
  · rintro _ later _ ⟨cause, stopped, _, outcome, -, -, keeps⟩
    exact ⟨some cause, stopped, outcome, keeps⟩

variable [Platform.PrintsAll]

/-- How the steps of a run end is one of their courses. -/
theorem course_of_stepsEnding {tree : FileTree} {failure : Option Failure} {stopped : Session}
    (usable : config.isUsable)
    (ended : stepsEnding host config tree world = (outcomeOf failure, stopped)) :
    Course host.network config { tree } failure stopped := by
  have ends : Run.Ends (steps host.network host.schedule config) { tree } (host.now.run world).2
    _ _ := steps_ends host.schedule usable
  have run : (Run.startFrom { tree } (steps host.network host.schedule config)).run
      (host.now.run world).2 = ((outcomeOf failure, stopped), _) := Prod.ext ended rfl
  cases failure <;> exact ends.of_run run

/-- The one course of a whole run, with what its results and its session say about it. -/
theorem ending_course (host : Host (StateM World)) (folder : RunFolder) (tree : FileTree)
    (world : World) (usable : config.isUsable) :
    ∃ failure stopped, stepsEnding host config tree world = (outcomeOf failure, stopped) ∧
      Course host.network config { tree } failure stopped ∧
      Keeps stopped (ending host config folder tree world).2 ∧
      ∀ results, (ending host config folder tree world).1 = .ok results →
        Reports config failure stopped results := by
  have ends : Run.Ends (run host config folder) { tree } world _ _ := run_ends folder tree
  unfold ending
  rcases left : (Run.startFrom { tree } (run host config folder)).run world with
    ⟨⟨_ | results, later⟩, after⟩
  · rcases ends.of_run left with ⟨failure, stopped, outcome, keeps⟩
    exact ⟨failure, stopped, outcome, course_of_stepsEnding usable outcome, keeps, by simp⟩
  · rcases ends.of_run left with ⟨failure, stopped, outcome, keeps, reports⟩
    refine ⟨failure, stopped, outcome, course_of_stepsEnding usable outcome, keeps, ?_⟩
    intro _ same
    cases same
    exact reports

end

attribute [local instance] Platform.accepting

/-- The ending of the small migration if a number of calls go through. -/
def pairwiseEnding (calls : Nat) : Except Failure Results × Session :=
  ending pairwiseHost pairwise (runFolder pairwise ⟨2024, 1, 1, 0, 0, 0, 0⟩) ⟨[], []⟩ calls

end Migration

end SocialMigration
