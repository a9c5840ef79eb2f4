import SocialMigration.Proofs.Run.Trace

/-!
# What events write

The calls that a sequence of events makes, those of a method that succeeded, and the records that
these carry. Reads and printed lines do not count, so all of this may be read off a trace.
-/

namespace SocialMigration

/-- The records that a call carries: the list that is its only argument. -/
def Call.records (call : Call) : List Json :=
  match call.arguments with
  | .obj [(_, .arr records)] => records
  | _ => []

namespace Event

/-- The calls that events make, each with what became of it. -/
def calls (events : List Event) : List (Call × Except Failure Unit) :=
  events.filterMap sent?

/-- The call of a method that an event makes, if it succeeds. -/
def success? (method : Text) : Event → Option Call
  | called call (.ok ()) => if call.method == method then some call else none
  | _ => none

/-- The calls of a method that succeed, in order. -/
def succeeded (method : Text) (events : List Event) : List Call :=
  events.filterMap (success? method)

/-- The records that the calls of a method write, in order. -/
def written (method : Text) (events : List Event) : List Json :=
  (succeeded method events).flatMap Call.records

variable {method account : Text} {event : Event} {events first second : List Event} {call : Call}

@[simp] theorem calls_nil : calls [] = [] := rfl
@[simp] theorem succeeded_nil : succeeded method [] = [] := rfl
@[simp] theorem written_nil : written method [] = [] := rfl

@[simp] theorem calls_append : calls (first ++ second) = calls first ++ calls second :=
  List.filterMap_append ..

@[simp] theorem succeeded_append :
    succeeded method (first ++ second) = succeeded method first ++ succeeded method second :=
  List.filterMap_append ..

@[simp] theorem written_append :
    written method (first ++ second) = written method first ++ written method second := by
  rw [written, succeeded_append, List.flatMap_append]
  rfl

theorem calls_trace (events : List Event) : calls (trace events) = calls events :=
  filterMap_trace sent? (fun _ => rfl) events

theorem succeeded_trace (method : Text) (events : List Event) :
    succeeded method (trace events) = succeeded method events :=
  filterMap_trace (success? method) (fun _ => rfl) events

theorem written_trace (method : Text) (events : List Event) :
    written method (trace events) = written method events :=
  congrArg (List.flatMap Call.records) (succeeded_trace method events)

/-- Where every call fails, none succeeds. -/
theorem succeeded_of_failed (failed : ∀ sent ∈ calls events, sent.2 ≠ .ok ()) :
    succeeded method events = [] := by
  rw [succeeded, List.filterMap_eq_nil_iff]
  intro event member
  cases event with
  | called call outcome =>
      cases outcome with
      | ok => exact absurd rfl (failed _ (List.mem_filterMap.mpr ⟨_, member, rfl⟩))
      | error => rfl
  | _ => rfl

theorem succeeded_of_calls (silent : calls events = []) : succeeded method events = [] :=
  succeeded_of_failed (by simp [silent])

theorem calls_of_reads (reads : ∀ event ∈ events, event.sent? = none) : calls events = [] :=
  List.filterMap_eq_nil_iff.mpr reads

theorem IsReadOf.sent? (reads : event.IsReadOf account method) : event.sent? = none := by
  cases event <;> first | rfl | exact reads.elim

@[simp] theorem calls_called (outcome : Except Failure Unit) :
    calls [called call outcome] = [(call, outcome)] := rfl

@[simp] theorem succeeded_called :
    succeeded method [called call (.ok ())] = if call.method == method then [call] else [] := by
  simp only [succeeded, List.filterMap_cons, success?, List.filterMap_nil]
  split <;> split <;> simp_all

end Event

namespace Session

/-- The calls of a session in order, each with what became of it. -/
def calls (session : Session) : List (Call × Except Failure Unit) :=
  Event.calls session.events

/-- The calls of a method that succeeded in a session, in order. -/
def succeeded (session : Session) (method : Text) : List Call :=
  Event.succeeded method session.events

/-- The records that a session has written by a method, in order. -/
def written (session : Session) (method : Text) : List Json :=
  Event.written method session.events

theorem calls_eq (session : Session) : session.calls = Event.calls session.trace :=
  (Event.calls_trace session.events).symm

theorem succeeded_eq (session : Session) (method : Text) :
    session.succeeded method = Event.succeeded method session.trace :=
  (Event.succeeded_trace method session.events).symm

theorem written_eq (session : Session) (method : Text) :
    session.written method = Event.written method session.trace :=
  (Event.written_trace method session.events).symm

variable {session later : Session} {trace : List Event}

/-- A session that starts without events has the trace that it logs. -/
theorem Logs.trace_of_fresh (logs : session.Logs trace later) (fresh : session.journal = []) :
    later.trace = trace := by
  rw [logs.trace_eq, Session.trace, Session.events, fresh]
  rfl

theorem Logs.calls_of_fresh (logs : session.Logs trace later) (fresh : session.journal = []) :
    later.calls = Event.calls trace := by
  rw [calls_eq, logs.trace_of_fresh fresh]

theorem Logs.succeeded_of_fresh (logs : session.Logs trace later) (fresh : session.journal = [])
    (method : Text) : later.succeeded method = Event.succeeded method trace := by
  rw [succeeded_eq, logs.trace_of_fresh fresh]

end Session

end SocialMigration
