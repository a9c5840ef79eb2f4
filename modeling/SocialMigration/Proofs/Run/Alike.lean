import SocialMigration.Proofs.Run.Trace

/-!
# Two runs side by side

Two parts of runs are alike if, started in sessions and worlds that are alike, they end with the
same outcome in sessions and worlds that are alike again. Which events of a session count, and which
worlds are alike, is chosen for the two runs at hand; printed lines never count, nor do the files
around a run.

The laws follow the parts: parts put together of alike parts are alike. Two parts that do not go in
step are alike if each of them ends with the same value and leaves nothing behind that counts.
-/

namespace SocialMigration

/-- What counts when two runs are compared: the events that are seen, and the worlds that are
alike. -/
structure Likeness (World : Type) where
  Seen : Type
  view : Event → Option Seen
  hidden : ∀ line, view (.printed line) = none
  worlds : World → World → Prop

namespace Likeness

variable {World Value Other Item : Type} {likeness : Likeness World}

/-- Two sessions that differ at most in their files and in events that are not seen. -/
structure Sessions (likeness : Likeness World) (session other : Session) : Prop where
  seen : session.events.filterMap likeness.view = other.events.filterMap likeness.view
  stage : session.stage = other.stage
  nodes : session.nodes = other.nodes
  accounts : session.accounts = other.accounts
  summary : session.summary = other.summary
  nodesCommitted : session.nodesCommitted = other.nodesCommitted
  accountsCommitted : session.accountsCommitted = other.accountsCommitted

/-- Two ends of parts: with the same outcome, and in sessions and worlds that are alike. -/
structure Ended (likeness : Likeness World)
    (ended ended' : (Except Failure Value × Session) × World) : Prop where
  outcome : ended.1.1 = ended'.1.1
  sessions : likeness.Sessions ended.1.2 ended'.1.2
  worlds : likeness.worlds ended.2 ended'.2

/-- Two parts that end alike whenever they start in sessions and worlds that are alike. -/
def Parts (likeness : Likeness World) (part part' : Run (StateM World) Value) : Prop :=
  ∀ session session' world world', likeness.Sessions session session' →
    likeness.worlds world world' →
    likeness.Ended ((Run.startFrom session part).run world)
      ((Run.startFrom session' part').run world')

/-- A part that does not tell sessions and worlds apart that are alike. -/
abbrev Steady (likeness : Likeness World) (part : Run (StateM World) Value) : Prop :=
  likeness.Parts part part

/-- A network that answers a query the same in worlds that are alike, and keeps them so. -/
def Answers (likeness : Likeness World) (network : Network (StateM World)) (query : Query) : Prop :=
  ∀ world world', likeness.worlds world world' →
    ((network.ask query).run world).1.outcome = ((network.ask query).run world').1.outcome ∧
      likeness.worlds ((network.ask query).run world).2 ((network.ask query).run world').2

/-- A network that does with a call the same in worlds that are alike, and keeps them so. -/
def Accepts (likeness : Likeness World) (network : Network (StateM World)) (call : Call) : Prop :=
  ∀ world world', likeness.worlds world world' →
    ((network.send call).run world).1.outcome = ((network.send call).run world').1.outcome ∧
      likeness.worlds ((network.send call).run world).2 ((network.send call).run world').2

/-! ## Sessions -/

section Sessions

variable {session session' session'' : Session} {events events' trace : List Event}

theorem Sessions.refl (likeness : Likeness World) (session : Session) :
    likeness.Sessions session session :=
  ⟨rfl, rfl, rfl, rfl, rfl, rfl, rfl⟩

theorem Sessions.symm (sessions : likeness.Sessions session session') :
    likeness.Sessions session' session where
  seen := sessions.seen.symm
  stage := sessions.stage.symm
  nodes := sessions.nodes.symm
  accounts := sessions.accounts.symm
  summary := sessions.summary.symm
  nodesCommitted := sessions.nodesCommitted.symm
  accountsCommitted := sessions.accountsCommitted.symm

theorem Sessions.trans (first : likeness.Sessions session session')
    (second : likeness.Sessions session' session'') : likeness.Sessions session session'' where
  seen := first.seen.trans second.seen
  stage := first.stage.trans second.stage
  nodes := first.nodes.trans second.nodes
  accounts := first.accounts.trans second.accounts
  summary := first.summary.trans second.summary
  nodesCommitted := first.nodesCommitted.trans second.nodesCommitted
  accountsCommitted := first.accountsCommitted.trans second.accountsCommitted

/-- Sessions stay alike after events of which the same is seen. -/
theorem Sessions.extend (sessions : likeness.Sessions session session')
    (seen : events.filterMap likeness.view = events'.filterMap likeness.view) :
    likeness.Sessions (session.extend events) (session'.extend events') where
  seen := by
    have before := sessions.seen
    simp only [Session.events] at before
    simp only [Session.events, Session.extend, List.reverse_append, List.reverse_reverse,
      List.filterMap_append, before, seen]
  stage := sessions.stage
  nodes := sessions.nodes
  accounts := sessions.accounts
  summary := sessions.summary
  nodesCommitted := sessions.nodesCommitted
  accountsCommitted := sessions.accountsCommitted

/-- A session is like itself after a trace of which nothing is seen. -/
theorem sessions_of_logs (logs : session.Logs trace session')
    (unseen : trace.filterMap likeness.view = []) : likeness.Sessions session session' := by
  rcases logs with ⟨events, rfl, rfl⟩
  rw [Event.filterMap_trace likeness.view likeness.hidden] at unseen
  have same : ([] : List Event).filterMap likeness.view = events.filterMap likeness.view :=
    unseen.symm
  exact (Sessions.refl likeness session).extend same

end Sessions

/-! ## Parts -/

variable {network : Network (StateM World)} {part part' : Run (StateM World) Value}
  {next next' : Value → Run (StateM World) Other}

theorem Parts.pure (value : Value) : likeness.Steady (Pure.pure value) :=
  fun _ _ _ _ sessions worlds => ⟨rfl, sessions, worlds⟩

theorem Parts.ofExcept (outcome : Except Failure Value) :
    likeness.Steady (Run.ofExcept outcome) := by
  cases outcome with
  | ok value => exact .pure value
  | error failure => exact fun _ _ _ _ sessions worlds => ⟨rfl, sessions, worlds⟩

/-- Parts that go on with the value of alike parts are alike if they are so for every value that can
be handed on. -/
theorem Parts.bind_of_ends {Known : Value → Prop}
    (known : ∀ session world,
      Run.Ends part session world (fun value _ _ => Known value) (fun _ _ _ => True))
    (first : likeness.Parts part part')
    (second : ∀ value, Known value → likeness.Parts (next value) (next' value)) :
    likeness.Parts (part >>= next) (part' >>= next') := by
  intro session session' world world' sessions worlds
  have ended := first session session' world world' sessions worlds
  have known := known session world
  unfold Run.Ends at known
  simp only [Run.startFrom, ExceptT.run_bind, StateT.run_bind] at ended known ⊢
  rcases run : (part.run.run session).run world with ⟨⟨outcome, later⟩, after⟩
  rcases run' : (part'.run.run session').run world' with ⟨⟨outcome', later'⟩, after'⟩
  rw [run, run'] at ended
  rw [run] at known
  rcases ended with ⟨same, sessions, worlds⟩
  change outcome = outcome' at same
  subst same
  cases outcome with
  | error failure => exact ⟨rfl, sessions, worlds⟩
  | ok value => exact second value known _ _ _ _ sessions worlds

theorem Parts.bind (first : likeness.Parts part part')
    (second : ∀ value, likeness.Parts (next value) (next' value)) :
    likeness.Parts (part >>= next) (part' >>= next') := by
  have known (session : Session) (world : World) :
      Run.Ends part session world (fun _ _ _ => True) (fun _ _ _ => True) :=
    Run.ends_run.mono (fun _ _ _ _ => trivial) (fun _ _ _ _ => trivial)
  exact first.bind_of_ends known fun value _ => second value

theorem Parts.discard (first : likeness.Parts part part') :
    likeness.Parts (discard part) (discard part') :=
  first.bind fun _ => .pure ()

theorem Parts.attempt (first : likeness.Parts part part') :
    likeness.Parts (Run.attempt part) (Run.attempt part') := by
  intro session session' world world' sessions worlds
  have ended := first session session' world world' sessions worlds
  simp only [Run.startFrom, Run.attempt, ExceptT.run_lift, StateT.run_map] at ended ⊢
  rcases run : (part.run.run session).run world with ⟨⟨outcome, later⟩, after⟩
  rcases run' : (part'.run.run session').run world' with ⟨⟨outcome', later'⟩, after'⟩
  rw [run, run'] at ended
  exact ⟨congrArg Except.ok ended.outcome, ended.sessions, ended.worlds⟩

theorem Parts.update {change change' : Session → Session}
    (kept : ∀ session session', likeness.Sessions session session' →
      likeness.Sessions (change session) (change' session')) :
    likeness.Parts (Run.update change) (Run.update change') :=
  fun session session' _ _ sessions worlds => ⟨rfl, kept session session' sessions, worlds⟩

/-- What a part does with its session may depend on all of it that counts. -/
theorem Parts.session {next next' : Session → Run (StateM World) Value}
    (parts : ∀ session session', likeness.Sessions session session' →
      likeness.Parts (next session) (next' session')) :
    likeness.Parts (Run.session >>= next) (Run.session >>= next') :=
  fun session session' world world' sessions worlds =>
    parts session session' sessions session session' world world' sessions worlds

theorem Parts.record {event event' : Event} (same : likeness.view event = likeness.view event') :
    likeness.Parts (Run.record event) (Run.record event') := by
  have seen : [event].filterMap likeness.view = [event'].filterMap likeness.view := by
    simp only [List.filterMap_cons, same]
  exact .update fun _ _ sessions => sessions.extend seen

/-- Parts that need not go in step are alike if each ends with the same value, leaves nothing behind
that is seen, and keeps its world like the other one. -/
theorem Parts.of_ends {value : Value}
    (left : ∀ session world world', likeness.worlds world world' →
      Run.Ends part session world
        (fun found later after => found = value ∧ likeness.Sessions session later ∧
          likeness.worlds after world') (fun _ _ _ => False))
    (right : ∀ session world world', likeness.worlds world world' →
      Run.Ends part' session world'
        (fun found later after => found = value ∧ likeness.Sessions session later ∧
          likeness.worlds world after) (fun _ _ _ => False)) :
    likeness.Parts part part' := by
  intro session session' world world' sessions worlds
  have ended := left session world world' worlds
  unfold Run.Ends at ended
  rcases run : (Run.startFrom session part).run world with ⟨⟨_ | found, later⟩, after⟩
  all_goals rw [run] at ended
  · exact ended.elim
  rcases ended with ⟨rfl, unseen, worlds⟩
  have ended' := right session' after world' worlds
  unfold Run.Ends at ended'
  rcases run' : (Run.startFrom session' part').run world' with ⟨⟨_ | found', later'⟩, after'⟩
  all_goals rw [run'] at ended'
  · exact ended'.elim
  rcases ended' with ⟨rfl, unseen', worlds⟩
  exact ⟨rfl, unseen.symm.trans (sessions.trans unseen'), worlds⟩

theorem Parts.recordLines (lines lines' : List Text) :
    likeness.Parts (Run.recordLines lines) (Run.recordLines lines') := by
  have unseen (session : Session) (lines : List Text) :
      likeness.Sessions session (session.extend (lines.map .printed)) :=
    sessions_of_logs (session.logs_printed lines) rfl
  apply Parts.of_ends
  · intro session world world' worlds
    rw [Run.ends_recordLines]
    exact ⟨rfl, unseen session lines, worlds⟩
  · intro session world world' worlds
    rw [Run.ends_recordLines]
    exact ⟨rfl, unseen session lines', worlds⟩

theorem Parts.forM (items : List Item) {each each' : Item → Run (StateM World) Unit}
    (parts : ∀ item ∈ items, likeness.Parts (each item) (each' item)) :
    likeness.Parts (items.forM each) (items.forM each') := by
  induction items with
  | nil => exact .pure ()
  | cons item items ih =>
      rcases List.forall_mem_cons.mp parts with ⟨first, others⟩
      exact first.bind fun _ => ih others

/-- What the other side hands out may differ in what does not count for the rest. -/
theorem Parts.effect {Answer : Type} {action action' : StateM World Answer}
    {next next' : Answer → Run (StateM World) Value} (same : Answer → Answer → Prop)
    (acts : ∀ world world', likeness.worlds world world' →
      same (action.run world).1 (action'.run world').1 ∧
        likeness.worlds (action.run world).2 (action'.run world').2)
    (parts : ∀ answer answer', same answer answer' →
      likeness.Parts (next answer) (next' answer')) :
    likeness.Parts (Run.effect action >>= next) (Run.effect action' >>= next') := by
  intro session session' world world' sessions worlds
  rcases acts world world' worlds with ⟨answers, after⟩
  exact parts _ _ answers session session' _ _ sessions after

theorem Parts.await {query : Query} (answers : likeness.Answers network query) :
    likeness.Steady (Run.await network query) := by
  apply Parts.effect (fun reply reply' : Reply Json => reply.outcome = reply'.outcome) answers
  intro reply reply' same
  rw [same]
  exact (Parts.recordLines _ _).bind fun _ => (Parts.record rfl).bind fun _ => .ofExcept _

theorem Parts.ask {query : Query} (answers : likeness.Answers network query) :
    likeness.Steady (Run.ask network query) :=
  (Parts.record rfl).bind fun _ => .await answers

theorem Parts.send {call : Call} (accepts : likeness.Accepts network call) :
    likeness.Steady (Run.send network call) := by
  apply Parts.effect (fun reply reply' : Reply Unit => reply.outcome = reply'.outcome) accepts
  intro reply reply' same
  rw [same]
  exact (Parts.recordLines _ _).bind fun _ => (Parts.record rfl).bind fun _ => .pure _

/-! ## The output -/

section

variable [Platform]

theorem Parts.requireWords (place : Place) (value : Json) :
    likeness.Steady (Run.requireWords place value) := by
  rw [Run.requireWords]
  cases place.unworded? value with
  | none => exact .pure ()
  | some fault => exact .ofExcept (.error _)

variable [Platform.PrintsAll]

theorem Parts.printBlock (lines lines' : List Text) :
    likeness.Parts (Run.printBlock lines) (Run.printBlock lines') := by
  rw [Run.printBlock_eq_recordLines, Run.printBlock_eq_recordLines]
  exact .recordLines lines lines'

theorem Parts.print (line line' : Text) : likeness.Parts (Run.print line) (Run.print line') :=
  .printBlock [line] [line']

theorem Parts.printAll (lines lines' : List Text) :
    likeness.Parts (Run.printAll lines) (Run.printAll lines') := by
  rw [Run.printAll_eq_recordLines, Run.printAll_eq_recordLines]
  exact .recordLines lines lines'

theorem Parts.printIf (wanted wanted' : Bool) (line line' : Text) :
    likeness.Parts (Run.printIf wanted line) (Run.printIf wanted' line') := by
  rw [Run.printIf_eq_recordLines, Run.printIf_eq_recordLines]
  exact .recordLines _ _

end

end Likeness

end SocialMigration
