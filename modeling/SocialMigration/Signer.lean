import SocialMigration.Gas
import SocialMigration.Journal
import SocialMigration.Text.Blank

/-!
# Signed calls

A change call is signed and submitted by a command-line tool that holds the keys. The arguments go
into a file of their own, because a batch may be longer than a command line; the file exists while
the tool runs and is removed however that ends, also if it cannot be finished or the tool is never
started. The tool's exit code says whether the call went through.
-/

namespace SocialMigration

/-- What comes of starting a program: it exits, it cannot be started, or there is a failure beyond
that. -/
inductive ProcessEnd where
  | exited (code : Int) (output errors : List UInt8)
  | notStarted (report : Text)
  | raised (failure : Failure)

/-- What signing needs from the machine: a file of its own with given text, whose path it tells; a
run of a command to its end; and the removal of that file. -/
structure Machine (m : Type → Type) where
  createFile : Text → m Text
  run : List Text → m ProcessEnd
  removeFile : Text → m Unit

/-- Uses a file with a text, which is there as long as it is used. -/
def Machine.withFile {m : Type → Type} [Monad m] {Value : Type} (machine : Machine m) (text : Text)
    (use : Text → m Value) : m Value := do
  let path ← machine.createFile text
  let value ← use path
  machine.removeFile path
  return value

/-- Who signs, on which network, with which program, and whether calls are printed. -/
structure Signer where
  account : Text
  network : Text
  program : Text
  verbose : Bool

namespace Signer

/-- The command that signs and submits a call whose arguments are in a file, unless its gas is too
great an amount. -/
def command? (signer : Signer) (contract method argumentsFile : Text) (gas : Int) :
    Option (List Text) :=
  (Gas.toText? gas).map fun amount =>
    [signer.program, "contract", "call-function", "as-transaction", contract, method,
      "file-args", argumentsFile, "prepaid-gas", amount, "attached-deposit", "0 NEAR",
      "sign-as", signer.account, "network-config", signer.network, "sign-with-legacy-keychain",
      "send"]

/-- The arguments of a call as the text of their file. -/
def argumentsText (call : Call) : Text :=
  call.arguments.written .compact

/-- The most characters of a program's output that are shown. -/
def tailLength : Nat := 2000

/-- The end of a program's output, without the blanks around it. -/
def outputTail (output : List UInt8) : Text :=
  let text := (Utf8.decodeLenient output).trim
  text.drop (text.length - tailLength)

/-- What a program that failed says: the end of its errors, else of its output. -/
def failureDetail (output errors : List UInt8) : Text :=
  if !(outputTail errors).isEmpty then outputTail errors
  else if !(outputTail output).isEmpty then outputTail output
  else "no output"

/-- What the end of the program means for the call. -/
def outcome (signer : Signer) (call : Call) : ProcessEnd → Except Failure Unit
  | .raised failure => .error failure
  | .notStarted report =>
    .error (.call call.contract call.method (.notStarted signer.program report))
  | .exited code output errors =>
    if code == 0 then .ok ()
    else .error (.call call.contract call.method (.exited code (failureDetail output errors)))

/-- The line that is printed before a call. -/
def callLine (signer : Signer) (call : Call) : Text :=
  "  Calling " ++ callName call.contract call.method ++ " as " ++ signer.account

/-- The line that is printed when a program has gone through. -/
def outputLine? : ProcessEnd → Option Text
  | .exited 0 output _ => some ([0x20, 0x20] ++ outputTail output)
  | _ => none

variable [Platform]

/-- What is told of a call when its program has ended. -/
def reply (signer : Signer) (call : Call) (processEnd : ProcessEnd) : Reply Unit :=
  match (outputLine? processEnd).bind (refusedIf signer.verbose) with
  | some report => ⟨[callLine signer call], .error (.unprintable report)⟩
  | none =>
    ⟨if signer.verbose then callLine signer call :: (outputLine? processEnd).toList else [],
      signer.outcome call processEnd⟩

variable {m : Type → Type} [Monad m]

/-- Runs the program for a call whose arguments are in a file, if there is a command for it. -/
def launch (signer : Signer) (machine : Machine m) (call : Call) (path : Text) : m ProcessEnd :=
  match signer.command? call.contract call.method path call.gas with
  | some command => machine.run command
  | none => return .raised (.arithmetic .overflow)

/-- Signs and submits a call. If its arguments are not put into text, their file is left unfinished
and nothing is submitted. -/
def send (signer : Signer) (machine : Machine m) (call : Call) : m (Reply Unit) := do
  match refusedIf signer.verbose (callLine signer call) with
  | some report => return ⟨[], .error (.unprintable report)⟩
  | none =>
    let processEnd ←
      match Place.argumentsFile.unworded? call.arguments with
      | some fault => machine.withFile [] fun _ => return .raised (.unworded fault)
      | none => machine.withFile (argumentsText call) (signer.launch machine call)
    return signer.reply call processEnd

end Signer

end SocialMigration
