import SocialMigration.Journal
import SocialMigration.Text.Base64

/-!
# View calls over HTTP

A query is one POST of a JSON object to the node; the arguments travel in it as base64 of JSON text.
The transport is not part of the client: it knows the form in which a URL is requested, refuses
those to which nothing can be sent, and posts. A refused URL, an error status, a broken transport
and a body that is not JSON are failed view calls, and so is a response from which no value can be
read.
-/

namespace SocialMigration

namespace Rpc

/-- A POST request. -/
structure Request where
  url : Text
  body : Text
  timeout : Int
  deriving Repr

/-- What comes of a request: a response, a fault of the transport, or a failure beyond it. -/
inductive Exchange where
  | responded (status : Nat) (reason body : Text)
  | broken (report : Text)
  | raised (failure : Failure)

/-- What view calls need from an HTTP library: the form in which a URL is requested, or the report
that nothing can be sent to it; and what comes of posting a request. -/
structure Transport (m : Type → Type) where
  requested : Text → Except Text Text
  post : Request → m Exchange

/-- Where requests go, how long they may take, and whether view calls are printed. -/
structure Endpoint where
  url : Text
  timeout : Int
  verbose : Bool

/-- The arguments that a query carries; none, or nothing in them, is an empty object. -/
def carriedArguments (arguments : Option Json) : Json :=
  match arguments with
  | none => .obj []
  | some value => if value.isVoid then .obj [] else value

/-- Arguments in the form in which they travel. -/
def encodedArguments (arguments : Json) : Text :=
  Base64.encode (Utf8.encode arguments.toText)

/-- The object that asks a node for a view call. -/
def payload (query : Query) : Json :=
  .obj [("jsonrpc", "2.0"), ("id", "dontcare"), ("method", "query"),
    ("params", .obj [("request_type", "call_function"), ("finality", "final"),
      ("account_id", .str query.account), ("method_name", .str query.method),
      ("args_base64", .str (encodedArguments (carriedArguments query.arguments)))])]

/-- The request that a query becomes when it goes to a URL. -/
def Endpoint.request (endpoint : Endpoint) (query : Query) (url : Text) : Request :=
  ⟨url, (payload query).toText, endpoint.timeout⟩

/-- A fault in a response as a failure. A count of bytes that is too large is not a failed query but
a number out of range, or more than there is room for; and neither is a stack that ends. -/
def failureOfResponse (query : Query) : ResponseFault → Failure
  | .countTooLarge .uncountable => .range .sizeTooLarge
  | .countTooLarge .tooLong => .range .textTooLong
  | .countTooLarge .noRoom => .noRoom
  | .tooDeep opened => .unread opened
  | .unworded fault => .unworded fault
  | fault => .query query.account query.method (.response fault)

/-- A body from which no value is read as a failure. -/
def failureOfBody (query : Query) : Json.Unread → Failure
  | .notJson error => .query query.account query.method (.bodyNotJson error)
  | .tooDeep opened => .unread opened

/-- Whether a status is an error of the client or of the server. -/
def isErrorStatus (status : Nat) : Bool :=
  400 ≤ status && status < 600

/-- The line that is printed for a view call. -/
def viewLine (query : Query) : Text :=
  "  View " ++ callName query.account query.method ++ "(" ++
    (carriedArguments query.arguments).toText ++ ")"

variable [Platform]

/-- The value that an exchange brings, or why it brings none. -/
def outcome (request : Request) (query : Query) : Exchange → Except Failure Json
  | .raised failure => .error failure
  | .broken report => .error (.query query.account query.method (.transport report))
  | .responded status reason body =>
    if isErrorStatus status then
      .error (.query query.account query.method (.httpStatus status reason request.url))
    else
      match Json.read Platform.bodyRoom body with
      | .error unread => .error (failureOfBody query unread)
      | .ok response => (valueOfResponse response).mapError (failureOfResponse query)

/-- Why a query is not posted, before its URL is looked at: its arguments are not put into text, or
the line for it is not printed. -/
def Endpoint.unasked? (endpoint : Endpoint) (query : Query) : Option Failure :=
  match Place.request.unworded? (carriedArguments query.arguments) with
  | some fault => some (.unworded fault)
  | none => (refusedIf endpoint.verbose (viewLine query)).map .unprintable

variable {m : Type → Type} [Monad m]

/-- Answers a query by one request, if one can be sent. -/
def Endpoint.ask (endpoint : Endpoint) (transport : Transport m) (query : Query) :
    m (Reply Json) := do
  match endpoint.unasked? query with
  | some failure => return ⟨[], .error failure⟩
  | none =>
    let printed := if endpoint.verbose then [viewLine query] else []
    match transport.requested endpoint.url with
    | .error report =>
      return ⟨printed, .error (.query query.account query.method (.transport report))⟩
    | .ok url =>
      let request := endpoint.request query url
      let exchange ← transport.post request
      return ⟨printed, outcome request query exchange⟩

end Rpc

end SocialMigration
