import SocialMigration.Balance
import SocialMigration.FileTree.Fault
import SocialMigration.Rpc.Response
import SocialMigration.Settings.Fault
import SocialMigration.Status

/-!
# Failures

Everything that can stop a migration, by cause, with the name and the words under which it is
reported. A value that a failure quotes has been put into words before. Nothing is retried: the
first failure ends the run. A failed batch names the records it held, because that is where the next
run has to start.
-/

namespace SocialMigration

/-- Why a view call has no usable answer. -/
inductive QueryFault where
  | transport (report : Text)
  | httpStatus (status : Nat) (reason url : Text)
  | bodyNotJson (error : Json.ReadError)
  | response (fault : Rpc.ResponseFault)
  | pageNotAList (kind : Text) (first : Nat)
  | badCount (answer : Json)
  | reported (message : Text)
  deriving Repr

/-- Why a change call did not go through. -/
inductive CallFault where
  | notStarted (program report : Text)
  | exited (code : Int) (detail : Text)
  | reported (message : Text)
  deriving Repr

/-- A number that a component refuses. -/
inductive ArgumentFault where
  | notPositive (name : Text) (value : Int)
  | negative (name : Text) (value : Int)
  | zeroStep
  deriving DecidableEq, Repr

/-- A number that leaves the range of what it counts. -/
inductive RangeFault where
  | sizeTooLarge
  | textTooLong
  | progressionTooLong
  | dateOutOfRange
  | tooManyDays (days : Int)
  | daysTooLarge
  deriving DecidableEq, Repr

/-- What stops a migration. -/
inductive Failure where
  | precondition (label account : Text) (expected : Status) (actual : Json)
  | query (account method : Text) (cause : QueryFault)
  | balance (fault : Balance.Fault)
  | call (contract method : Text) (cause : CallFault)
  | batch (contract method : Text) (first last total : Nat) (cause : Failure)
  | argument (fault : ArgumentFault)
  | arithmetic (fault : Balance.ArithmeticFault)
  | range (fault : RangeFault)
  | noRoom
  | unread (opened : Json.Container)
  | unworded (fault : Unworded)
  | unprintable (report : Text)
  | unremoved
  | setting (fault : Settings.Fault)
  | file (fault : FileTree.Fault)
  | folderMissing
  | fieldless (kind : Text)
  | foreign (kind message : Text)
  deriving Repr

/-- The place of a view call, as messages write it. -/
def callName (account method : Text) : Text :=
  account ++ "." ++ method

/-- The words for a stack that ends, with what was under way. -/
def stackMessage (work : Text) : Text :=
  "maximum recursion depth exceeded" ++ work

/-- The words for an opening that is read where the stack ends. -/
def Json.Container.message : Json.Container → Text
  | array => stackMessage " while decoding a JSON array from a unicode string"
  | object => stackMessage " while decoding a JSON object from a unicode string"

/-- What is under way where a value is put into text at a place. -/
def Place.work : Place → Text
  | request | nodeError => " while encoding a JSON object"
  | argumentsFile => " while calling a Python object"
  | detail | status | count | record | balance => " while getting the repr of an object"

/-- The words for a value that is not put into text. -/
def Unworded.message (fault : Unworded) : Text :=
  match fault.flaw with
  | .tooDeep => stackMessage fault.place.work
  | .tooManyDigits =>
    "Exceeds the limit (" ++ Text.ofNat Json.digitLimit ++ " digits) for integer string " ++
      "conversion; use sys.set_int_max_str_digits() to increase the limit"

/-- What a malformed response lacks. -/
def malformedResponse (call detail : Text) : Text :=
  "Malformed RPC response for " ++ call ++ ": " ++ detail

/-- The words for a count of bytes that is too large. -/
def Rpc.CountFault.message : Rpc.CountFault → Text
  | uncountable => "cannot fit 'int' into an index-sized integer"
  | tooLong => "byte string is too large"
  | noRoom => []

/-- The words of a fault in a response to a call. -/
def Rpc.ResponseFault.message (call : Text) : Rpc.ResponseFault → Text
  | notAnObject kind => malformedResponse call ("expected a JSON object, got " ++ kind)
  | node detail => "RPC error calling " ++ call ++ ": " ++ detail
  | missingResult => malformedResponse call "missing result"
  | contract detail => call ++ " failed: " ++ detail
  | missingBytes => malformedResponse call "missing result bytes"
  | undecodable cause => "Could not decode result of " ++ call ++ ": " ++ cause.message
  | countTooLarge fault => fault.message
  | tooDeep opened => opened.message
  | unworded fault => fault.message

/-- The words of an HTTP status that is an error. -/
def httpStatusMessage (status : Nat) (reason url : Text) : Text :=
  let side : Text := if status < 500 then "Client" else "Server"
  Text.ofNat status ++ " " ++ side ++ " Error: " ++ reason ++ " for url: " ++ url

/-- The words of a view call without a usable answer. -/
def QueryFault.message (call : Text) : QueryFault → Text
  | transport report => "View call " ++ call ++ " failed: " ++ report
  | httpStatus status reason url =>
    "View call " ++ call ++ " failed: " ++ httpStatusMessage status reason url
  | bodyNotJson error => "View call " ++ call ++ " failed: " ++ error.message
  | response fault => fault.message call
  | pageNotAList kind first =>
    call ++ " returned " ++ kind ++ " instead of a list for from_index=" ++ Text.ofNat first
  | badCount answer =>
    call ++ " returned " ++ answer.quoted ++ ", expected a non-negative integer"
  | reported message => message

/-- The words of a change call that did not go through. -/
def CallFault.message (call : Text) : CallFault → Text
  | notStarted program report =>
    "Could not start NEAR CLI " ++ program.quoted ++ ": " ++ report
  | exited code detail =>
    call ++ " failed (exit code " ++ Text.ofInt code ++ "): " ++ detail
  | reported message => message

/-- The words of a refused number. -/
def ArgumentFault.message : ArgumentFault → Text
  | notPositive name value => name ++ " must be positive, got " ++ Text.ofInt value
  | negative name value => name ++ " must not be negative, got " ++ Text.ofInt value
  | zeroStep => "range() arg 3 must not be zero"

/-- The words of a number out of range. -/
def RangeFault.message : RangeFault → Text
  | sizeTooLarge => Rpc.CountFault.uncountable.message
  | textTooLong => Rpc.CountFault.tooLong.message
  | progressionTooLong => "Python int too large to convert to C ssize_t"
  | dateOutOfRange => "date value out of range"
  | tooManyDays days =>
    "days=" ++ Text.ofInt days ++ "; must have magnitude <= 999999999"
  | daysTooLarge => "Python int too large to convert to C int"

/-- The name under which a value that is not put into text is reported. -/
def Unworded.reportName (fault : Unworded) : Text :=
  match fault.flaw with
  | .tooDeep => "RecursionError"
  | .tooManyDigits => "ValueError"

/-- The name of a decimal operation without a result. -/
def Balance.ArithmeticFault.reportName : Balance.ArithmeticFault → Text
  | invalidOperation => "InvalidOperation"
  | overflow => "Overflow"

namespace Failure

/-- The words of a wrong status. -/
def preconditionMessage (label account : Text) (expected : Status) (actual : Json) : Text :=
  "The " ++ label ++ " account " ++ account ++ " is not at " ++ expected.stateName ++
    " state (status: " ++ actual.quoted ++ ")"

/-- The words of a failed batch, before those of its cause. -/
def batchMessage (method : Text) (first last total : Nat) : Text :=
  method ++ " failed for records " ++ Text.ofNat first ++ " to " ++ Text.ofNat last ++ " out of " ++
    Text.ofNat total ++ ": "

/-- The words of a failure. -/
def message : Failure → Text
  | precondition label account expected actual =>
    preconditionMessage label account expected actual
  | query account method cause => cause.message (callName account method)
  | balance fault => fault.message
  | call contract method cause => cause.message (callName contract method)
  | batch _ method first last total cause =>
    batchMessage method first last total ++ cause.message
  | argument fault => fault.message
  | arithmetic fault => "[<class 'decimal." ++ fault.reportName ++ "'>]"
  | range fault => fault.message
  | noRoom => []
  | unread opened => opened.message
  | unworded fault => fault.message
  | unprintable report => report
  | unremoved => stackMessage []
  | setting fault => fault.message
  | file fault => fault.message
  | folderMissing => "Output directory not created. Call create_timestamped_dir() first."
  | fieldless kind => "'" ++ kind ++ "' object has no attribute 'get'"
  | foreign _ message => message

/-- The name under which a failure is reported. -/
def reportName : Failure → Text
  | precondition .. => "PreconditionError"
  | query .. => "RemoteQueryError"
  | balance _ => "ParseError"
  | call .. => "RemoteMutationError"
  | batch .. => "BatchCommitError"
  | argument _ => "ValueError"
  | arithmetic fault => fault.reportName
  | range _ => "OverflowError"
  | noRoom => "MemoryError"
  | unread _ => "RecursionError"
  | unworded fault => fault.reportName
  | unprintable _ => "UnicodeEncodeError"
  | unremoved => "RecursionError"
  | setting fault => if fault.isConfiguration then "ConfigError" else "ValueError"
  | file fault => fault.kind.reportName
  | folderMissing => "RuntimeError"
  | fieldless _ => "AttributeError"
  | foreign kind _ => kind

/-- A fault of the balance report as a failure. -/
def ofReport : Balance.ReportFault → Failure
  | .record fault => balance fault
  | .arithmetic fault => arithmetic fault
  | .unworded fault => unworded fault

end Failure

end SocialMigration
