import SocialMigration.Proofs.Run.Ends

/-!
# What parts of a run leave behind

A part leaves events in the journal. Lines are printed in between and change nothing else, so the
trace of a session is its events without them. That one session comes after another by a trace is
the form in which the ends of parts are stated: it says exactly what was asked, learnt and written
in between, and that nothing else of the session has changed.
-/

namespace SocialMigration

namespace Event

/-- Whether an event is a printed line. -/
def isLine : Event → Bool
  | printed _ => true
  | _ => false

@[simp] theorem isLine_printed (line : Text) : (printed line).isLine = true := rfl
@[simp] theorem isLine_asked (query : Query) : (asked query).isLine = false := rfl
@[simp] theorem isLine_answered (query : Query) (outcome : Except Failure Json) :
    (answered query outcome).isLine = false := rfl
@[simp] theorem isLine_announced (first last total : Nat) :
    (announced first last total).isLine = false := rfl
@[simp] theorem isLine_called (call : Call) (outcome : Except Failure Unit) :
    (called call outcome).isLine = false := rfl

/-- The answer that an event brings, with its query. -/
def answer? : Event → Option (Query × Except Failure Json)
  | answered query outcome => some (query, outcome)
  | _ => none

/-- Whether an event belongs to reading from a method of an account. -/
def IsReadOf (account method : Text) : Event → Prop
  | asked query => query.account = account ∧ query.method = method
  | answered query _ => query.account = account ∧ query.method = method
  | _ => False

/-- The call that an event makes, with what became of it. -/
def sent? : Event → Option (Call × Except Failure Unit)
  | called call outcome => some (call, outcome)
  | _ => none

/-- Events without the printed lines among them. -/
def trace (events : List Event) : List Event :=
  events.filter (!·.isLine)

@[simp] theorem trace_nil : trace [] = [] := rfl

@[simp] theorem trace_cons (event : Event) (events : List Event) :
    trace (event :: events) = if event.isLine then trace events else event :: trace events := by
  cases event <;> rfl

@[simp] theorem trace_append (first second : List Event) :
    trace (first ++ second) = trace first ++ trace second :=
  List.filter_append ..

@[simp] theorem trace_printed (lines : List Text) : trace (lines.map printed) = [] := by
  simp [trace]

theorem trace_map {Item : Type} {event : Item → Event} (items : List Item)
    (silent : ∀ item, (event item).isLine = false) :
    trace (items.map event) = items.map event := by
  simp [trace, silent]

theorem filterMap_trace {Value : Type} (view : Event → Option Value)
    (silent : ∀ line, view (printed line) = none) (events : List Event) :
    (trace events).filterMap view = events.filterMap view := by
  rw [trace, List.filterMap_filter]
  congr 1
  funext event
  cases event <;> simp [silent]

end Event

namespace Session

/-- A session after further events. -/
def extend (session : Session) (events : List Event) : Session :=
  { session with journal := events.reverse ++ session.journal }

/-- The events of a session without the printed lines. -/
def trace (session : Session) : List Event :=
  Event.trace session.events

/-- A session is another one after a trace of events and any printed lines between them. -/
def Logs (session : Session) (trace : List Event) (later : Session) : Prop :=
  ∃ events, later = session.extend events ∧ Event.trace events = trace

variable {session later latest : Session} {first second : List Event}

@[simp] theorem extend_nodes (session : Session) (events : List Event) :
    (session.extend events).nodes = session.nodes := rfl
@[simp] theorem extend_accounts (session : Session) (events : List Event) :
    (session.extend events).accounts = session.accounts := rfl

@[simp] theorem extend_extend (session : Session) (first second : List Event) :
    (session.extend first).extend second = session.extend (first ++ second) := by
  simp [extend]

theorem logs_extend (session : Session) (events : List Event) :
    session.Logs (Event.trace events) (session.extend events) :=
  ⟨events, rfl, rfl⟩

theorem Logs.refl (session : Session) : session.Logs [] session :=
  ⟨[], rfl, rfl⟩

theorem logs_printed (session : Session) (lines : List Text) :
    session.Logs [] (session.extend (lines.map .printed)) := by
  simpa using session.logs_extend (lines.map .printed)

theorem Logs.append (front : session.Logs first later) (back : later.Logs second latest) :
    session.Logs (first ++ second) latest := by
  rcases front with ⟨before, rfl, rfl⟩
  rcases back with ⟨after, rfl, rfl⟩
  exact ⟨before ++ after, by simp, by simp⟩

/-- Lines printed after a trace do not show in it. -/
theorem Logs.andLines (logs : session.Logs first later) (lines : List Text) :
    session.Logs first (later.extend (lines.map .printed)) := by
  simpa using logs.append (later.logs_printed lines)

/-- A change of what is not in the journal may be made before a trace as well as after it. -/
theorem Logs.update (change : Session → Session)
    (apart : ∀ (session : Session) (events : List Event),
      change (session.extend events) = (change session).extend events)
    (logs : session.Logs first later) : (change session).Logs first (change later) := by
  rcases logs with ⟨events, rfl, rfl⟩
  exact ⟨events, apart session events, rfl⟩

theorem Logs.trace_eq (logs : session.Logs first later) :
    later.trace = session.trace ++ first := by
  rcases logs with ⟨events, rfl, rfl⟩
  simp [trace, Session.events, extend]

/-- One trace leads from a session to a later one. -/
theorem Logs.unique (logs : session.Logs first later) (logs' : session.Logs second later) :
    first = second :=
  List.append_cancel_left (logs.trace_eq.symm.trans logs'.trace_eq)

theorem Logs.stage_eq (logs : session.Logs first later) : later.stage = session.stage := by
  rcases logs with ⟨events, rfl, rfl⟩
  rfl

theorem Logs.nodesCommitted_eq (logs : session.Logs first later) :
    later.nodesCommitted = session.nodesCommitted := by
  rcases logs with ⟨events, rfl, rfl⟩
  rfl

theorem Logs.accountsCommitted_eq (logs : session.Logs first later) :
    later.accountsCommitted = session.accountsCommitted := by
  rcases logs with ⟨events, rfl, rfl⟩
  rfl

theorem Logs.nodes_eq (logs : session.Logs first later) : later.nodes = session.nodes := by
  rcases logs with ⟨events, rfl, rfl⟩
  rfl

theorem Logs.accounts_eq (logs : session.Logs first later) :
    later.accounts = session.accounts := by
  rcases logs with ⟨events, rfl, rfl⟩
  rfl

theorem Logs.tree_eq (logs : session.Logs first later) : later.tree = session.tree := by
  rcases logs with ⟨events, rfl, rfl⟩
  rfl

end Session

/-- Whether a failure is that of a batch. -/
def Failure.isBatch : Failure → Bool
  | .batch .. => true
  | _ => false

namespace Network

variable {World : Type}

/-- A network may answer a query with a value. -/
def Answers (network : Network (StateM World)) (query : Query) (answer : Json) : Prop :=
  ∃ world, ((network.ask query).run world).1.outcome = .ok answer

/-- A network may fail with a failure, at a query or at a call. -/
def Fails (network : Network (StateM World)) (failure : Failure) : Prop :=
  (∃ query world, ((network.ask query).run world).1.outcome = .error failure) ∨
    ∃ call world, ((network.send call).run world).1.outcome = .error failure

/-- A failure comes from a network if it is that of a batch, which nothing but a commit makes. -/
def Explains (network : Network (StateM World)) (failure : Failure) : Prop :=
  failure.isBatch = true → network.Fails failure

/-- A network leaves the failure of a batch to the commit, which knows the records of the batch. -/
def LeavesBatches (network : Network (StateM World)) : Prop :=
  ∀ failure, network.Fails failure → failure.isBatch = false

theorem LeavesBatches.isBatch {network : Network (StateM World)} {failure : Failure}
    (plain : network.LeavesBatches) (explained : network.Explains failure) :
    failure.isBatch = false := by
  cases batch : failure.isBatch with
  | false => rfl
  | true =>
      rw [plain failure (explained batch)] at batch
      exact nomatch batch

end Network

namespace Run

variable {World Value : Type} {network : Network (StateM World)} {session : Session} {world : World}
  {returned : Unit → Session → World → Prop} {failed : Failure → Session → World → Prop}

@[simp] theorem ends_record {event : Event} :
    Ends (record event) session world returned failed ↔
      returned () (session.extend [event]) world :=
  Iff.rfl

@[simp] theorem ends_forM_record {Item : Type} {items : List Item} {event : Item → Event} :
    Ends (items.forM fun item => record (event item)) session world returned failed ↔
      returned () (session.extend (items.map event)) world := by
  induction items generalizing session with
  | nil => exact Iff.rfl
  | cons item items ih =>
      have unfolded : (List.forM (m := Run (StateM World)) (item :: items)
          fun item => record (event item)) =
            record (event item) >>= fun _ => items.forM fun item => record (event item) := rfl
      rw [unfolded, ends_bind, ends_record, ih, Session.extend_extend]
      rfl

@[simp] theorem ends_recordLines {lines : List Text} :
    Ends (recordLines lines) session world returned failed ↔
      returned () (session.extend (lines.map .printed)) world :=
  ends_forM_record

/-- A query that has been asked is answered with what the network makes of it. -/
theorem await_outcome (query : Query) :
    Ends (await network query) session world
      (fun answer later _ => ((network.ask query).run world).1.outcome = .ok answer ∧
        session.Logs [.answered query (.ok answer)] later)
      (fun failure later _ => ((network.ask query).run world).1.outcome = .error failure ∧
        session.Logs [.answered query (.error failure)] later) := by
  simp only [await, ends_bind, ends_effect, ends_recordLines, ends_record, ends_ofExcept,
    Session.extend_extend]
  have logs := session.logs_extend
    ((((network.ask query).run world).1.printed.map .printed) ++
      [.answered query ((network.ask query).run world).1.outcome])
  rw [Event.trace_append, Event.trace_printed] at logs
  cases outcome : ((network.ask query).run world).1.outcome with
  | ok answer => exact ⟨rfl, by simpa [outcome] using logs⟩
  | error failure => exact ⟨rfl, by simpa [outcome] using logs⟩

/-- A query that has been asked is answered with a value or with a failure of the network. -/
theorem await_ends (query : Query) :
    Ends (await network query) session world
      (fun answer later _ => network.Answers query answer ∧
        session.Logs [.answered query (.ok answer)] later)
      (fun failure later _ => network.Fails failure ∧
        session.Logs [.answered query (.error failure)] later) := by
  apply (await_outcome query).mono
  · intro answer later _ ended
    exact ⟨⟨world, ended.1⟩, ended.2⟩
  · intro failure later _ ended
    exact ⟨.inl ⟨query, world, ended.1⟩, ended.2⟩

/-- A query is asked and answered, with nothing in between. -/
theorem ask_ends (query : Query) :
    Ends (ask network query) session world
      (fun answer later _ => network.Answers query answer ∧
        session.Logs [.asked query, .answered query (.ok answer)] later)
      (fun failure later _ => network.Fails failure ∧
        session.Logs [.asked query, .answered query (.error failure)] later) := by
  simp only [ask, ends_bind, ends_record]
  have asked : session.Logs [.asked query] (session.extend [.asked query]) :=
    session.logs_extend [.asked query]
  apply (await_ends query).mono
  · intro answer later after ended
    rcases ended with ⟨answers, logs⟩
    exact ⟨answers, asked.append logs⟩
  · intro failure later after ended
    rcases ended with ⟨fails, logs⟩
    exact ⟨fails, asked.append logs⟩

/-- A call is made and hands out what became of it; this is no failure yet. -/
theorem send_ends (call : Call) :
    Ends (send network call) session world
      (fun outcome later _ => (∀ failure, outcome = .error failure → network.Fails failure) ∧
        session.Logs [.called call outcome] later)
      (fun _ _ _ => False) := by
  simp only [send, ends_bind, ends_effect, ends_recordLines, ends_record, ends_pure,
    Session.extend_extend]
  have logs := session.logs_extend
    ((((network.send call).run world).1.printed.map .printed) ++
      [.called call ((network.send call).run world).1.outcome])
  rw [Event.trace_append, Event.trace_printed] at logs
  exact ⟨fun failure outcome => .inr ⟨call, world, outcome⟩, logs⟩

/-! ## The output -/

section

variable [Platform] {line : Text} {lines : List Text}

/-- Lines are printed, or the output refuses them and nothing is. -/
theorem ends_printBlock_cases :
    Ends (printBlock lines) session world returned failed ↔
      match Platform.refusal? (Text.join [0x0A] lines) with
      | none => returned () (session.extend (lines.map .printed)) world
      | some report => failed (.unprintable report) session world := by
  rw [printBlock]
  cases Platform.refusal? (Text.join [0x0A] lines) with
  | none => exact ends_recordLines
  | some report => exact Iff.rfl

/-- A value that cannot be put into text ends a run that requires that. -/
theorem ends_requireWords {place : Place} {value : Json} :
    Ends (requireWords place value) session world returned failed ↔
      match place.unworded? value with
      | none => returned () session world
      | some fault => failed (.unworded fault) session world := by
  rw [requireWords]
  cases place.unworded? value <;> exact Iff.rfl

variable [Platform.PrintsAll]

/-- Where the output accepts everything, to print lines is to take them down. -/
theorem printBlock_eq_recordLines (lines : List Text) :
    (printBlock lines : Run (StateM World) Unit) = recordLines lines := by
  rw [printBlock, Platform.PrintsAll.accepts]

theorem printAll_eq_recordLines (lines : List Text) :
    (printAll lines : Run (StateM World) Unit) = recordLines lines := by
  rw [printAll, recordLines]
  exact congrArg _ (funext fun line => printBlock_eq_recordLines [line])

theorem printIf_eq_recordLines (wanted : Bool) (line : Text) :
    (printIf wanted line : Run (StateM World) Unit) =
      recordLines (if wanted then [line] else []) := by
  cases wanted
  · rfl
  · exact printBlock_eq_recordLines [line]

@[simp] theorem ends_printBlock :
    Ends (printBlock lines) session world returned failed ↔
      returned () (session.extend (lines.map .printed)) world := by
  rw [printBlock_eq_recordLines, ends_recordLines]

@[simp] theorem ends_print :
    Ends (print line) session world returned failed ↔
      returned () (session.extend [.printed line]) world :=
  ends_printBlock

@[simp] theorem ends_printAll :
    Ends (printAll lines) session world returned failed ↔
      returned () (session.extend (lines.map .printed)) world := by
  rw [printAll_eq_recordLines, ends_recordLines]

@[simp] theorem ends_printIf {wanted : Bool} :
    Ends (printIf wanted line) session world returned failed ↔
      returned () (session.extend ((if wanted then [line] else []).map .printed)) world := by
  rw [printIf_eq_recordLines, ends_recordLines]

theorem run_printBlock (session : Session) (world : World) (lines : List Text) :
    (startFrom session (printBlock lines : Run (StateM World) Unit)).run world =
      ((.ok (), session.extend (lines.map .printed)), world) := by
  have ends : Ends (printBlock lines) session world
      (fun _ later after => later = session.extend (lines.map .printed) ∧ after = world)
      (fun _ _ _ => False) := ends_printBlock.mpr ⟨rfl, rfl⟩
  unfold Ends at ends
  split at ends
  · rename_i run
    rw [run, ends.1, ends.2]
  · exact ends.elim

end

end Run

end SocialMigration
