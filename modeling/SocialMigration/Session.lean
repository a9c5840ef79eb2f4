import SocialMigration.FileTree.Basic
import SocialMigration.Journal

/-!
# Sessions

The state of one run: its journal, the stage it has reached, what it has read and committed so far,
and the files around it. A failure ends a run but not its session, which keeps what was reached. The
other side may act in any monad. What it prints meanwhile has been printed when its reply comes;
what the run prints itself may be refused by the output, and that is a failure like any other.
-/

namespace SocialMigration

/-- The stages of a run, in order. -/
inductive Stage where
  | start
  | preconditionsOk
  | nodesFetched
  | accountsFetched
  | reported
  | nodeCountInitialized
  | nodesCommitted
  | accountsCommitted
  | done
  deriving DecidableEq, Repr

/-- The name of a stage in the report. -/
def Stage.name : Stage → Text
  | start => "START"
  | preconditionsOk => "PRECONDITIONS_OK"
  | nodesFetched => "NODES_FETCHED"
  | accountsFetched => "ACCOUNTS_FETCHED"
  | reported => "REPORTED"
  | nodeCountInitialized => "DEST_NODE_COUNT_INIT"
  | nodesCommitted => "NODES_COMMITTED"
  | accountsCommitted => "ACCOUNTS_COMMITTED"
  | done => "DONE"

/-- What is counted before the first write: the numbers that the source reported, the numbers of
records fetched, and the total balance in the smallest unit and in NEAR. -/
structure Summary where
  nodeCount : Nat
  nodesFetched : Nat
  accountCount : Nat
  accountsFetched : Nat
  total : Decimal
  totalNear : Decimal
  deriving Repr

/-- The state of a run. The journal holds the latest event first. -/
structure Session where
  journal : List Event := []
  stage : Stage := .start
  nodes : List Json := []
  accounts : List Json := []
  summary : Option Summary := none
  nodesCommitted : Option Nat := none
  accountsCommitted : Option Nat := none
  tree : FileTree := ⟨[], []⟩

/-- The events of a session in the order in which they happened. -/
def Session.events (session : Session) : List Event :=
  session.journal.reverse

/-- A part of a run: it may fail, and changes the session either way. -/
abbrev Run (m : Type → Type) := ExceptT Failure (StateT Session m)

namespace Run

variable {m : Type → Type} [Monad m] {Value : Type}

/-- Changes the session. -/
def update (change : Session → Session) : Run m Unit :=
  modify change

/-- Adds an event to the journal. -/
def record (event : Event) : Run m Unit :=
  update fun session => { session with journal := event :: session.journal }

/-- Takes down lines that have been printed. -/
def recordLines (lines : List Text) : Run m Unit :=
  lines.forM fun line => record (.printed line)

/-- Ends the run with a failure. -/
def fail (failure : Failure) : Run m Value :=
  throw failure

/-- Goes on with a value, or ends with a failure. -/
def ofExcept : Except Failure Value → Run m Value
  | .ok value => pure value
  | .error failure => fail failure

section

variable [Platform]

/-- Prints lines at once, unless the output refuses their text. -/
def printBlock (lines : List Text) : Run m Unit :=
  match Platform.refusal? (Text.join [0x0A] lines) with
  | none => recordLines lines
  | some report => fail (.unprintable report)

/-- Prints a line. -/
def print (line : Text) : Run m Unit :=
  printBlock [line]

/-- Prints lines one after the other. -/
def printAll (lines : List Text) : Run m Unit :=
  lines.forM print

/-- Prints a line if details are wanted. -/
def printIf (wanted : Bool) (line : Text) : Run m Unit :=
  if wanted then print line else pure ()

/-- Goes on only if a value can be put into text at a place. -/
def requireWords (place : Place) (value : Json) : Run m Unit :=
  match place.unworded? value with
  | none => pure ()
  | some fault => fail (.unworded fault)

end

/-- Does something of the other side, which cannot fail. -/
def effect (action : m Value) : Run m Value :=
  ExceptT.lift (StateT.lift action)

/-- Runs a part and hands out its outcome, also if it fails. -/
def attempt (part : Run m Value) : Run m (Except Failure Value) :=
  ExceptT.lift part.run

/-- Waits for the answer to a query that has been asked. -/
def await (network : Network m) (query : Query) : Run m Json := do
  let reply ← effect (network.ask query)
  recordLines reply.printed
  record (.answered query reply.outcome)
  ofExcept reply.outcome

/-- Asks a query and waits for its answer. -/
def ask (network : Network m) (query : Query) : Run m Json := do
  record (.asked query)
  await network query

/-- Makes a call, and hands out what became of it. -/
def send (network : Network m) (call : Call) : Run m (Except Failure Unit) := do
  let reply ← effect (network.send call)
  recordLines reply.printed
  record (.called call reply.outcome)
  return reply.outcome

/-- The session so far. -/
def session : Run m Session :=
  get

/-- Runs a part from a session on. -/
def startFrom (session : Session) (part : Run m Value) : m (Except Failure Value × Session) :=
  part.run.run session

/-- Runs a part from a new session. -/
def start (part : Run m Value) : m (Except Failure Value × Session) :=
  startFrom {} part

end Run

end SocialMigration
