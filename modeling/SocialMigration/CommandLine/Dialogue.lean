import SocialMigration.CommandLine.Basic
import SocialMigration.Json.Printer
import SocialMigration.Json.Reader

/-!
# The dialogue with the surroundings

The program has no network, no processes and no clock of its own: it asks its surroundings for them,
one JSON value at a time, and each need is answered by one JSON value. This module says how needs
are written and answers are read; an answer of the wrong shape is none.
-/

namespace SocialMigration

namespace CommandLine

/-- What the program asks of its surroundings. -/
inductive Need where
  | start
  | time
  | response (request : Rpc.Request)
  | file (text : Text)
  | processEnd (command : List Text)
  | removal (path : Text)
  deriving Repr

/-- A need as it is written. -/
def Need.toJson : Need → Json
  | start => .obj [("need", "start")]
  | time => .obj [("need", "time")]
  | response request =>
    .obj [("need", "response"), ("url", .str request.url), ("body", .str request.body),
      ("timeout", .int request.timeout)]
  | file text => .obj [("need", "file"), ("text", .str text)]
  | processEnd command =>
    .obj [("need", "processEnd"), ("command", .arr (command.map .str))]
  | removal path => .obj [("need", "removal"), ("path", .str path)]

namespace Answer

/-- The text of a string. -/
def text? : Json → Option Text
  | .str text => some text
  | _ => none

/-- The value of a natural number. -/
def nat? : Json → Option Nat
  | .int value => if 0 ≤ value then some value.toNat else none
  | _ => none

/-- The items of an array. -/
def items? : Json → Option (List Json)
  | .arr items => some items
  | _ => none

/-- The field of an object, which is looked for by an ASCII name. -/
def field? (answer : Json) (key : String) : Option Json :=
  answer.field? (Text.ofString key)

/-- A moment is given by its seven numbers, from the year to the microsecond. -/
def moment? (answer : Json) : Option Moment := do
  match ← (← items? answer).mapM nat? with
  | [year, month, day, hour, minute, second, microsecond] =>
    some ⟨year, month, day, hour, minute, second, microsecond⟩
  | _ => none

/-- An exchange is given by a status, a reason and a body, or by the report of a broken
transport. -/
def exchange? (answer : Json) : Option Rpc.Exchange :=
  match field? answer "broken" with
  | some report => return .broken (← text? report)
  | none => do
    let status ← nat? (← field? answer "status")
    let reason ← text? (← field? answer "reason")
    let body ← text? (← field? answer "body")
    return .responded status reason body

/-- The end of a process is given by its exit code and its outputs in base64, or by the report that
it could not be started. -/
def processEnd? (answer : Json) : Option ProcessEnd :=
  match field? answer "notStarted" with
  | some report => return .notStarted (← text? report)
  | none => do
    let .int code ← field? answer "exit" | none
    let output ← Base64.decode? (← text? (← field? answer "output"))
    let errors ← Base64.decode? (← text? (← field? answer "errors"))
    return .exited code output errors

/-- The names from the root to an entry. -/
def trail? (answer : Json) : Option Trail := do
  (← items? answer).mapM text?

/-- An entry is given by its trail and by the text of a file, the target of a link, or nothing more
for a directory. -/
def entry? (answer : Json) : Option (Trail × FileTree.Entry) := do
  let trail ← trail? (← field? answer "trail")
  match field? answer "text", field? answer "target" with
  | some text, _ => return (trail, .file (← text? text))
  | none, some target => return (trail, .link (← text? target))
  | none, none => return (trail, .directory)

/-- The environment is given as an object of strings. -/
def environment? : Json → Option Settings.Environment
  | .obj fields => fields.mapM fun (name, value) => do return (name, ← text? value)
  | _ => none

/-- The start is given by the environment, the entries of the file tree and the working
directory. -/
def start? (answer : Json) : Option (Settings.Environment × FileTree) := do
  let environment ← environment? (← field? answer "environment")
  let entries ← (← items? (← field? answer "entries")).mapM entry?
  let working ← trail? (← field? answer "working")
  return (environment, ⟨entries, working⟩)

end Answer

/-- An entry of the file tree as it is written. -/
def entryJson (trail : Trail) (entry : FileTree.Entry) : Json :=
  let trail : Text × Json := ("trail", .arr (trail.map .str))
  match entry with
  | .file text => .obj [trail, ("text", .str text)]
  | .link target => .obj [trail, ("target", .str target)]
  | .directory => .obj [trail]

/-- The failure that leaves the program, if there is one. -/
def failureJson (outcome : Except Failure Nat) : Json :=
  match outcome with
  | .ok _ => .null
  | .error failure => .obj [("kind", .str failure.reportName), ("message", .str failure.message)]

/-- What is told in the end besides the exit status: what is printed, what the file tree looks like,
and the failure that leaves the program. -/
def closing (reading : Reading) (outcome : Except Failure Nat) (session : Session) : Json :=
  let printed :=
    match reading with
    | .start _ => Event.output session.events
    | _ => printedText usage
  .obj [("printed", .str printed),
    ("entries", .arr (session.tree.entries.map fun (trail, entry) => entryJson trail entry)),
    ("failure", failureJson outcome)]

end CommandLine

end SocialMigration
