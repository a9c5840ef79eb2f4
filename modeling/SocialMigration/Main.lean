import SocialMigration.CommandLine.Dialogue
import SocialMigration.Settings.Assignments
import SocialMigration.Text.Unencodable
import SocialMigration.Url.Requested

/-!
# The program

Runs the command line over standard input and output. Every need is a line of output, and the next
line of input answers it; the last line of output is the closing.
-/

namespace SocialMigration

namespace Program

open CommandLine

/-- The standard output is UTF-8. -/
local instance : Platform :=
  .usual Text.unencodable?

/-- Writes a value as a line. -/
def tell (value : Json) : IO Unit := do
  let output ← IO.getStdout
  output.putStrLn (String.ofList (value.toText.map fun c => Char.ofNat c.val))
  output.flush

/-- Writes a need as a line and reads the line that answers it. -/
def obtain {Value : Type} (need : Need) (read? : Json → Option Value) : IO Value := do
  tell need.toJson
  let line ← (← IO.getStdin).getLine
  match Json.read Platform.bodyRoom (Text.ofString line) with
  | .ok answer =>
    match read? answer with
    | some value => return value
    | none => throw (IO.userError "the answer has the wrong shape")
  | .error _ => throw (IO.userError "the answer is no JSON value")

/-- The surroundings, as far as they are needed after the start. -/
def host (environment : Settings.Environment) : Host IO where
  environment
  merge := Settings.withAssignments
  transport :=
    { requested := Url.requested
      post := fun request => obtain (.response request) Answer.exchange? }
  machine :=
    { createFile := fun text => obtain (.file text) Answer.text?
      run := fun command => obtain (.processEnd command) Answer.processEnd?
      removeFile := fun path => obtain (.removal path) fun _ => some () }
  schedule := {}
  now := obtain .time Answer.moment?

/-- Runs the command line. The result is the exit status: one if a failure leaves the program. -/
def run (arguments : List Text) : IO UInt32 := do
  let (environment, tree) ← obtain .start Answer.start?
  let reading := CommandLine.read arguments
  let (outcome, session) ←
    Run.startFrom { tree } (CommandLine.run (host environment) reading)
  tell (closing reading outcome session)
  match outcome with
  | .ok status => return status.toUInt32
  | .error _ => return 1

end Program

end SocialMigration

/-- The program. -/
def main (arguments : List String) : IO UInt32 :=
  SocialMigration.Program.run (arguments.map SocialMigration.Text.ofString)
