import SocialMigration.Failure

/-!
# The journal of a run

A run reads by queries and writes by calls, and prints lines. Every one of these is an event of its
journal: a query is asked and, later, answered, because several may be in flight at once; a call is
over before anything else happens. A batch is announced by its range just before its call.
-/

namespace SocialMigration

/-- A read: a view method of an account, with arguments if any are given. -/
structure Query where
  account : Text
  method : Text
  arguments : Option Json
  deriving Repr

/-- A write: a change method of a contract, its arguments and the gas it may burn. -/
structure Call where
  contract : Text
  method : Text
  arguments : Json
  gas : Int
  deriving Repr

/-- What comes back from the other side: its value or failure, and the lines printed meanwhile. -/
structure Reply (Value : Type) where
  printed : List Text
  outcome : Except Failure Value

/-- The two capabilities that a run needs from the network: reads, and writes. -/
structure Network (m : Type → Type) where
  ask : Query → m (Reply Json)
  send : Call → m (Reply Unit)

/-- Something that a run does or learns. -/
inductive Event where
  | printed (line : Text)
  | asked (query : Query)
  | answered (query : Query) (outcome : Except Failure Json)
  | announced (first last total : Nat)
  | called (call : Call) (outcome : Except Failure Unit)

namespace Event

/-- The line that an event prints. -/
def line? : Event → Option Text
  | printed line => some line
  | _ => none

/-- The query that an event issues. -/
def query? : Event → Option Query
  | asked query => some query
  | _ => none

/-- The call that an event makes. -/
def call? : Event → Option Call
  | called call _ => some call
  | _ => none

end Event

/-- Lines as printed text: each ends with a line feed. -/
def printedText (lines : List Text) : Text :=
  lines.flatMap fun line => line ++ [0x0A]

/-- The text that a sequence of events prints. -/
def Event.output (events : List Event) : Text :=
  printedText (events.filterMap Event.line?)

end SocialMigration
