import Mathlib
import SocialMigration.Proofs.Json.RoundTrip
import SocialMigration.Proofs.Rpc.Failing
import SocialMigration.Proofs.Text.Base64

/-!
# Requests of view calls

A view call is one request, whatever it is answered, if its arguments can be put into text and the
transport sends anything to the endpoint at all. Its body is the query as JSON, and in it, once more
as JSON and in base64, stand the arguments. So the node reads the account, the method and the
arguments as they were given.
-/

namespace SocialMigration

namespace Rpc

/-- The query of a node for a view call, with the arguments in base64. -/
def callFunction (account method encoded : Text) : Json :=
  .obj [("jsonrpc", "2.0"), ("id", "dontcare"), ("method", "query"),
    ("params", .obj [("request_type", "call_function"), ("finality", "final"),
      ("account_id", .str account), ("method_name", .str method),
      ("args_base64", .str encoded)])]

/-- Whether a value may be the arguments of a view call: an object without doubles that can be
read. -/
structure IsArguments (value : Json) : Prop where
  object : ∃ fields, value = .obj fields
  doubleFree : value.isFloatFree = true
  legible : value.isLegible = true

/-- Whether a text is the base64 form of an ASCII text from which a value is read. -/
inductive Encodes (encoded : Text) (value : Json) : Prop where
  | intro (text : Text) (padded : Base64.IsPadded encoded)
      (decoded : Base64.decode? encoded = some (Utf8.encode text))
      (ascii : text.all (·.val < 0x80) = true) (read : Json.IsReadFrom text value)

/-- Whether a node reads a view call from the body of a request. -/
inductive Request.Asks (request : Request) (account method : Text) (arguments : Json) : Prop where
  | intro (encoded : Text)
      (read : Json.IsReadFrom request.body (callFunction account method encoded))
      (encodes : Encodes encoded arguments)

variable {value : Json} {query : Query}

/-! ## Arguments -/

theorem isReadFrom_toText (doubleFree : value.isFloatFree = true)
    (legible : value.isLegible = true) : Json.IsReadFrom value.toText value :=
  Json.isReadFrom_written Json.Layout.isBlank_spaced doubleFree legible

theorem ascii_toText (doubleFree : value.isFloatFree = true) :
    value.toText.all (·.val < 0x80) = true := by
  rw [Json.toText, Json.written_eq]
  exact Json.ascii_spelled_escaping Json.Layout.isBlank_spaced doubleFree

theorem encodes_encodedArguments (arguments : IsArguments value) :
    Encodes (encodedArguments value) value :=
  .intro value.toText (Base64.isPadded_encode _) (Base64.decode?_encode _)
    (ascii_toText arguments.doubleFree) (isReadFrom_toText arguments.doubleFree arguments.legible)

/-- The base64 form of arguments determines them. -/
theorem encodedArguments_injective {first second : Json} (firstArguments : IsArguments first)
    (secondArguments : IsArguments second)
    (same : encodedArguments first = encodedArguments second) : first = second := by
  have decoded {value : Json} (arguments : IsArguments value) :
      Utf8.decode (Utf8.encode value.toText) = .ok value.toText :=
    Utf8.decode_eq_ok_iff.mpr ⟨Json.isScalar_of_ascii (ascii_toText arguments.doubleFree), rfl⟩
  have texts : first.toText = second.toText := by
    have bytes := congrArg Utf8.decode (Base64.encode_injective same)
    rw [decoded firstArguments, decoded secondArguments] at bytes
    exact Except.ok.inj bytes
  have values := congrArg (Json.read (max first.nesting second.nesting)) texts
  rw [isReadFrom_toText firstArguments.doubleFree firstArguments.legible _ (Nat.le_max_left ..),
    isReadFrom_toText secondArguments.doubleFree secondArguments.legible _
      (Nat.le_max_right ..)] at values
  exact Except.ok.inj values

/-! ## Requests -/

/-- What is carried are the arguments, or an empty object if there are none. -/
theorem carriedArguments_eq (arguments : ∀ value ∈ query.arguments, IsArguments value) :
    carriedArguments query.arguments = query.arguments.getD (.obj []) ∧
      IsArguments (query.arguments.getD (.obj [])) := by
  cases given : query.arguments with
  | none => exact ⟨rfl, ⟨[], rfl⟩, rfl, rfl⟩
  | some value =>
      have valid := arguments value given
      rcases valid.object with ⟨fields, rfl⟩
      refine ⟨?_, valid⟩
      cases fields <;> rfl

theorem isLegible_callFunction {account method encoded : Text}
    (accountUnpaired : account.isUnpaired = true) (methodUnpaired : method.isUnpaired = true)
    (encodedUnpaired : encoded.isUnpaired = true) :
    (callFunction account method encoded).isLegible = true := by
  have parts : (callFunction account method encoded).isLegible =
      ((account.isUnpaired && (method.isUnpaired && (encoded.isUnpaired && true))) && true) := rfl
  rw [parts, accountUnpaired, methodUnpaired, encodedUnpaired]
  rfl

/-- The request of a query asks for its view call. -/
theorem request_asks (endpoint : Endpoint) (url : Text) (account : query.account.isUnpaired = true)
    (method : query.method.isUnpaired = true)
    (arguments : ∀ value ∈ query.arguments, IsArguments value) :
    (endpoint.request query url).Asks query.account query.method
      (query.arguments.getD (.obj [])) := by
  rcases carriedArguments_eq arguments with ⟨carried, valid⟩
  have encodes := encodes_encodedArguments valid
  rcases encodes with ⟨text, padded, -, -, -⟩
  have encoded := Text.isUnpaired_of_isScalar (Json.isScalar_of_ascii padded.ascii)
  refine .intro (encodedArguments (query.arguments.getD (.obj []))) ?_
    (encodes_encodedArguments valid)
  rw [← carried]
  exact isReadFrom_toText rfl (isLegible_callFunction account method (carried ▸ encoded))

section

variable [Platform]

/-- Whether the line for a view call is printed, if there is one. -/
def Endpoint.Announces (endpoint : Endpoint) (query : Query) : Prop :=
  endpoint.verbose = true → Platform.refusal? (viewLine query) = none

/-- Arguments for which there is room are put into text. -/
theorem unworded?_carried (arguments : ∀ value ∈ query.arguments, IsArguments value) :
    ((query.arguments.getD (.obj [])).nesting ≤ Platform.textRoom .request →
      Place.request.unworded? (carriedArguments query.arguments) = none) ∧
    (Platform.textRoom .request < (query.arguments.getD (.obj [])).nesting →
      Place.request.unworded? (carriedArguments query.arguments) =
        some ⟨.request, .tooDeep⟩) := by
  rcases carriedArguments_eq arguments with ⟨carried, valid⟩
  have short := Json.hasShortIntegers_of_isLegible valid.legible
  rw [carried]
  exact ⟨fun fits => Place.unworded?_eq_none_iff.mpr ⟨fits, short⟩,
    fun deep => Place.unworded?_of_lt short deep⟩

theorem unasked?_eq_none {endpoint : Endpoint}
    (worded : Place.request.unworded? (carriedArguments query.arguments) = none)
    (announces : endpoint.Announces query) : endpoint.unasked? query = none := by
  rw [Endpoint.unasked?, worded, Option.map_eq_none_iff, refusedIf]
  split
  · exact announces (by assumption)
  · rfl

variable {m : Type → Type} [Monad m]

/-- A view call that is sent is one request, and its reply depends on what comes of it. -/
theorem ask_of_requested {endpoint : Endpoint} {url : Text} {transport : Transport m}
    (asked : endpoint.unasked? query = none)
    (requested : transport.requested endpoint.url = .ok url) :
    endpoint.ask transport query = do
      let exchange ← transport.post (endpoint.request query url)
      return ⟨if endpoint.verbose then [viewLine query] else [],
        outcome (endpoint.request query url) query exchange⟩ := by
  simp only [Endpoint.ask, asked, requested]

/-- A view call whose address is refused is no request. -/
theorem ask_of_refused {endpoint : Endpoint} {report : Text} {transport : Transport m}
    (asked : endpoint.unasked? query = none)
    (refused : transport.requested endpoint.url = .error report) :
    endpoint.ask transport query =
      pure ⟨if endpoint.verbose then [viewLine query] else [],
        .error (.query query.account query.method (.transport report))⟩ := by
  simp only [Endpoint.ask, asked, refused]

/-- A view call that is given up before its address is looked at is no request. -/
theorem ask_of_unasked {endpoint : Endpoint} {failure : Failure} {transport : Transport m}
    (unasked : endpoint.unasked? query = some failure) :
    endpoint.ask transport query = pure ⟨[], .error failure⟩ := by
  simp only [Endpoint.ask, unasked]

end

/-- A request carries exactly its view call. Where there is room for the arguments and the line for
the call is printed, a view call is one request to the address that the transport makes of the
endpoint: the node reads the account, the method and the arguments in it, and all that is left to do
depends on what comes of it. Where the transport refuses the address nothing is sent, and the query
fails; and where there is no room for the arguments, or the line is refused, nothing is sent either.
Different arguments never travel in the same form. -/
theorem request_carries_call [Platform] (endpoint : Endpoint) (query : Query)
    (account : query.account.isUnpaired = true) (method : query.method.isUnpaired = true)
    (arguments : ∀ value ∈ query.arguments, IsArguments value) :
    ((query.arguments.getD (.obj [])).nesting ≤ Platform.textRoom .request →
      endpoint.Announces query →
      (∀ url, ∃ (request : Request) (reply : Exchange → Reply Json),
        request.url = url ∧ request.timeout = endpoint.timeout ∧
        request.Asks query.account query.method (query.arguments.getD (.obj [])) ∧
        ∀ {m : Type → Type} [Monad m] (transport : Transport m),
          transport.requested endpoint.url = .ok url →
          endpoint.ask transport query = do return reply (← transport.post request)) ∧
      ∀ report, ∃ printed, ∀ {m : Type → Type} [Monad m] (transport : Transport m),
        transport.requested endpoint.url = .error report →
        endpoint.ask transport query =
          pure ⟨printed, .error (.query query.account query.method (.transport report))⟩) ∧
    (Platform.textRoom .request < (query.arguments.getD (.obj [])).nesting →
      ∀ {m : Type → Type} [Monad m] (transport : Transport m),
        endpoint.ask transport query = pure ⟨[], .error (.unworded ⟨.request, .tooDeep⟩)⟩) ∧
    ((query.arguments.getD (.obj [])).nesting ≤ Platform.textRoom .request →
      ∀ report, endpoint.verbose = true → Platform.refusal? (viewLine query) = some report →
      ∀ {m : Type → Type} [Monad m] (transport : Transport m),
        endpoint.ask transport query = pure ⟨[], .error (.unprintable report)⟩) ∧
    ∀ first second, IsArguments first → IsArguments second → first ≠ second →
      encodedArguments first ≠ encodedArguments second := by
  rcases unworded?_carried arguments with ⟨worded, tooDeep⟩
  refine ⟨?_, ?_, ?_, ?_⟩
  · intro fits announces
    have asked := unasked?_eq_none (worded fits) announces
    constructor
    · intro url
      exact ⟨endpoint.request query url, _, rfl, rfl,
        request_asks endpoint url account method arguments,
        fun transport requested => ask_of_requested asked requested⟩
    · intro report
      exact ⟨_, fun transport refused => ask_of_refused asked refused⟩
  · intro deep m _ transport
    exact ask_of_unasked (by rw [Endpoint.unasked?, tooDeep deep])
  · intro fits report verbose refused m _ transport
    refine ask_of_unasked ?_
    rw [Endpoint.unasked?, worded fits, refusedIf, if_pos verbose, refused]
    rfl
  · intro first second firstArguments secondArguments different same
    exact different (encodedArguments_injective firstArguments secondArguments same)

/-- Arguments with a key that is not ASCII and holds a surrogate on its own, a character above
U+FFFF, and an integer of more than sixty-four bits. -/
def awkwardArguments : Json :=
  .obj [("from_index", .int 18446744073709551616),
    ([0xE9, 0xD83D], .arr [.str [0x22, 0x1F600], .null])]

/-- A transport that sends nothing to an address without a scheme, takes every other one as it is,
and counts the requests. -/
def demandingScheme : Transport (StateM Nat) where
  requested url :=
    if url.contains 0x3A then .ok url
    else .error ("Invalid URL " ++ url.quoted ++
      ": No scheme supplied. Perhaps you meant https://" ++ url ++ "?")
  post _ := do
    modify (· + 1)
    return .responded 200 "OK" []

attribute [local instance] Platform.accepting Platform.printsAll_accepting

theorem request_carries_call_awkward :
    let endpoint : Endpoint := ⟨"https://rpc.testnet.near.org", 30, true⟩
    let query : Query := ⟨"src.near", "get_nodes", some awkwardArguments⟩
    query.account.isUnpaired = true ∧ query.method.isUnpaired = true ∧
      IsArguments awkwardArguments ∧
      awkwardArguments.nesting ≤ Platform.textRoom .request ∧ endpoint.Announces query ∧
      demandingScheme.requested endpoint.url = .ok endpoint.url ∧
      ∃ (request : Request) (reply : Exchange → Reply Json),
        request.url = endpoint.url ∧ request.timeout = 30 ∧
        request.Asks "src.near" "get_nodes" awkwardArguments ∧
        endpoint.ask demandingScheme query = do return reply (← demandingScheme.post request) := by
  intro endpoint query
  have account : query.account.isUnpaired = true := by decide
  have method : query.method.isUnpaired = true := by decide
  have valid : IsArguments awkwardArguments := ⟨⟨_, rfl⟩, rfl, by decide⟩
  have arguments : ∀ value ∈ query.arguments, IsArguments value := by
    intro value given
    rcases Option.some.inj given with rfl
    exact valid
  have fits : awkwardArguments.nesting ≤ Platform.textRoom .request := by decide
  have announces : endpoint.Announces query := fun _ => rfl
  have requested : demandingScheme.requested endpoint.url = .ok endpoint.url := rfl
  rcases (request_carries_call endpoint query account method arguments).1 fits announces with
    ⟨sent, -⟩
  rcases sent endpoint.url with ⟨request, reply, url, timeout, asks, one⟩
  exact ⟨account, method, valid, fits, announces, requested, request, reply, url, timeout, asks,
    one demandingScheme requested⟩

/-- A short integer stays below the power of ten with a digit too many. -/
theorem natAbs_lt_of_isShort {value : Int} (short : Json.isShort value = true) :
    value.natAbs < 10 ^ Json.digitLimit := by
  rw [Json.isShort, decide_eq_true_eq] at short
  have digits : ∀ digit ∈ Numeral.digits 10 value.natAbs, digit < 10 :=
    Numeral.digits_lt (by decide) _
  calc value.natAbs
    _ = Numeral.value 10 (Numeral.digits 10 value.natAbs) :=
        (Numeral.value_digits (by decide) _).symm
    _ < 10 ^ (Numeral.digits 10 value.natAbs).length := Numeral.value_lt digits
    _ ≤ 10 ^ Json.digitLimit := Nat.pow_le_pow_right (by decide) short

/-- An integer that is not short is not put into text. -/
theorem unworded?_ne_none {key : Text} {value : Int} (long : ¬Json.isShort value = true)
    (place : Place) : place.unworded? (.obj [(key, .int value)]) ≠ none := by
  intro worded
  have short := (Place.unworded?_eq_none_iff.mp worded).short
  rw [Json.hasShortIntegers_obj] at short
  have single := short _ (List.mem_singleton_self _)
  rw [Json.hasShortIntegers_int] at single
  exact long single

theorem not_isShort_power : ¬Json.isShort (10 ^ Json.digitLimit) = true := by
  intro short
  have small := natAbs_lt_of_isShort short
  simp only [Int.natAbs_pow, Int.reduceAbs, lt_self_iff_false] at small

/-- No request goes to an address without a scheme, and none carries an integer with a digit too
many. -/
theorem request_uncarried :
    let query : Query := ⟨"src.near", "get_nodes", none⟩
    let longQuery : Query :=
      ⟨"src.near", "get_nodes", some (.obj [("n", .int (10 ^ Json.digitLimit))])⟩
    (((Endpoint.mk "rpc.testnet.near.org" 30 false).ask demandingScheme query).run 0).2 = 0 ∧
      (((Endpoint.mk "https://rpc.testnet.near.org" 30 false).ask demandingScheme
        longQuery).run 0).2 = 0 := by
  intro query longQuery
  constructor
  · rw [ask_of_refused rfl rfl]
    rfl
  · have carried (n : Int) :
        carriedArguments (some (.obj [("n", .int n)])) = .obj [("n", .int n)] := rfl
    cases unworded : Place.request.unworded? (.obj [("n", .int (10 ^ Json.digitLimit))]) with
    | none => exact absurd unworded (unworded?_ne_none not_isShort_power .request)
    | some fault =>
        have unasked : (Endpoint.mk "https://rpc.testnet.near.org" 30 false).unasked? longQuery =
            some (.unworded fault) := by
          rw [Endpoint.unasked?, carried, unworded]
        rw [ask_of_unasked unasked]
        rfl

end Rpc

end SocialMigration
