import Mathlib
import SocialMigration.Proofs.Rpc.Response

/-!
# Failing view calls

A view call that brings no value fails under its account and its method, whatever the node or the
transport did, with these exceptions. The response holds a count where its list of bytes should be,
and there cannot be as many bytes; or the stack ends, while the arguments are written, while the
body or the result in it is read, or while an error is quoted; or the output refuses the line that
is printed for the call. Such a call fails for that, and not as a query.
-/

namespace SocialMigration

namespace Rpc

/-- Which number of bytes a value stands for in the place of their list. -/
inductive Counts : Json → Int → Prop where
  | int {count : Int} : Counts (.int count) count
  | yes : Counts (.bool true) 1
  | no : Counts (.bool false) 0

/-- Whether a failure is that of a query, under its account and its method. -/
def IsFailureOf (query : Query) (failure : Failure) : Prop :=
  ∃ cause, failure = .query query.account query.method cause

theorem isFailureOf_iff {query : Query} {fault : ResponseFault} :
    IsFailureOf query (failureOfResponse query fault) ↔ fault.isBeyond = false := by
  constructor
  · rintro ⟨cause, same⟩
    cases fault with
    | countTooLarge fault => cases fault <;> cases same
    | tooDeep _ | unworded _ => cases same
    | _ => rfl
  · intro own
    cases fault with
    | countTooLarge _ | tooDeep _ | unworded _ => cases own
    | _ => exact ⟨_, rfl⟩

section

variable [Platform]

/-- Why there cannot be as many bytes as a count says: it is no number of the machine, no sequence
of bytes is as long, or there is no room. -/
inductive TooLarge : Int → CountFault → Prop where
  | below {count : Int} : count < -0x8000000000000000 → TooLarge count .uncountable
  | above {count : Int} : 0x8000000000000000 ≤ count → TooLarge count .uncountable
  | tooLong {count : Int} :
      lengthLimit < count → count < 0x8000000000000000 → TooLarge count .tooLong
  | noRoom {count : Int} :
      0 ≤ count → Platform.byteRoom < count → count ≤ lengthLimit → TooLarge count .noRoom

/-- What in a response is beyond the machine: a count that is too large, a result that is nested too
deep to be read, or an error that is not put into words. -/
inductive Exceeds : Json → ResponseFault → Prop where
  | count {response content : Json} {count : Int} {fault : CountFault}
      (holds : Holds response content) (counts : Counts content count)
      (tooLarge : TooLarge count fault) :
      Exceeds response (.countTooLarge fault)
  | result {response : Json} {items : List Json} {text : Text} {opened : Json.Container}
      (list : Holds response (.arr items))
      (bytes : List.Forall₂ StandsFor items (Utf8.encode text)) (scalar : text.isScalar = true)
      (stopped : Json.read Platform.resultRoom text = .error (.tooDeep opened)) :
      Exceeds response (.tooDeep opened)
  | error {response error : Json} {place : Place} {fault : Unworded}
      (reports : Reports response place error) (unshown : place.unshown? error = some fault) :
      Exceeds response (.unworded fault)

/-- What in an exchange is beyond the machine: a body that is nested too deep, or something in the
response that it holds. -/
inductive Exchange.Strays : Exchange → ResponseFault → Prop where
  | body {status : Nat} {reason body : Text} {opened : Json.Container}
      (accepted : isErrorStatus status = false)
      (stopped : Json.read Platform.bodyRoom body = .error (.tooDeep opened)) :
      Strays (.responded status reason body) (.tooDeep opened)
  | response {status : Nat} {reason body : Text} {response : Json} {fault : ResponseFault}
      (accepted : isErrorStatus status = false)
      (read : Json.read Platform.bodyRoom body = .ok response)
      (exceeds : Exceeds response fault) :
      Strays (.responded status reason body) fault

variable {response content : Json} {count : Int} {query : Query} {fault : ResponseFault}
  {bytes : List UInt8}

/-! ## Counts -/

theorem zeroBytes_eq_tooLarge_iff {fault : CountFault} :
    zeroBytes count = .error (.countTooLarge fault) ↔ TooLarge count fault := by
  constructor
  · intro failed
    simp only [zeroBytes] at failed
    split at failed
    · rename_i outside
      rw [Bool.or_eq_true, decide_eq_true_eq, decide_eq_true_eq] at outside
      cases failed
      exact outside.elim .below .above
    rename_i inside
    rw [Bool.or_eq_true, decide_eq_true_eq, decide_eq_true_eq, not_or, Int.not_le] at inside
    split at failed
    · cases failed
    rename_i positive
    split at failed
    · cases failed
      exact .tooLong (by assumption) inside.2
    · rename_i short
      split at failed
      · cases failed
        exact .noRoom (Int.not_lt.mp positive) (by assumption) (Int.not_lt.mp short)
      · cases failed
  · intro tooLarge
    cases tooLarge with
    | below small => simp [zeroBytes, small]
    | above large => simp [zeroBytes, large]
    | tooLong long small =>
        have : ¬count < -0x8000000000000000 ∧ ¬(0x8000000000000000 ≤ count) ∧ ¬count < 0 := by
          simp only [lengthLimit] at long
          omega
        simp [zeroBytes, this, long]
    | noRoom positive large small =>
        have : ¬count < -0x8000000000000000 ∧ ¬(0x8000000000000000 ≤ count) ∧ ¬count < 0 ∧
            ¬lengthLimit < count := by
          simp only [lengthLimit] at small ⊢
          omega
        simp [zeroBytes, this, large]

/-- A number of bytes is refused as one, or because it is negative. -/
theorem tooLarge_of_zeroBytes (failed : zeroBytes count = .error fault)
    (beyond : fault.isBeyond = true) :
    ∃ cause, fault = .countTooLarge cause ∧ TooLarge count cause := by
  cases fault with
  | countTooLarge cause => exact ⟨cause, rfl, zeroBytes_eq_tooLarge_iff.mp failed⟩
  | tooDeep _ | unworded _ =>
      simp only [zeroBytes] at failed
      repeat' split at failed
      all_goals cases failed
  | _ => cases beyond

/-- What stands in the place of the bytes is beyond the machine only if it is a count. -/
theorem tooLarge_of_bytesOfResult (failed : bytesOfResult content = .error fault)
    (beyond : fault.isBeyond = true) :
    ∃ count cause, Counts content count ∧ fault = .countTooLarge cause ∧ TooLarge count cause := by
  cases content with
  | int count =>
      rcases tooLarge_of_zeroBytes failed beyond with ⟨cause, rfl, tooLarge⟩
      exact ⟨count, cause, .int, rfl, tooLarge⟩
  | bool value =>
      rcases tooLarge_of_zeroBytes failed beyond with ⟨cause, rfl, tooLarge⟩
      cases value with
      | false => exact ⟨0, cause, .no, rfl, tooLarge⟩
      | true => exact ⟨1, cause, .yes, rfl, tooLarge⟩
  | null | float _ | str _ =>
      cases failed
      cases beyond
  | arr _ | obj _ =>
      rcases mapError_eq_error_iff.mp failed with ⟨cause, -, rfl⟩
      cases beyond

theorem bytesOfResult_of_tooLarge {cause : CountFault} (counts : Counts content count)
    (tooLarge : TooLarge count cause) :
    bytesOfResult content = .error (.countTooLarge cause) := by
  cases counts <;> exact zeroBytes_eq_tooLarge_iff.mpr tooLarge

/-! ## Responses -/

/-- Bytes are beyond the machine only if the value in their text is nested too deep. -/
theorem tooDeep_of_valueOfBytes (failed : valueOfBytes bytes = .error fault)
    (beyond : fault.isBeyond = true) :
    ∃ text opened, text.isScalar = true ∧ Utf8.encode text = bytes ∧ fault = .tooDeep opened ∧
      Json.read Platform.resultRoom text = .error (.tooDeep opened) := by
  rcases text_or_undecodable bytes with ⟨text, scalar, rfl⟩ | ⟨cause, refused⟩
  · rw [valueOfBytes_encode scalar] at failed
    rcases mapError_eq_error_iff.mp failed with ⟨unread, stopped, rfl⟩
    cases unread with
    | notJson error => cases beyond
    | tooDeep opened => exact ⟨text, opened, scalar, rfl, rfl, stopped⟩
  · cases refused.symm.trans failed
    cases beyond

/-- The faults of a response that are beyond those of a query are these. -/
theorem valueOfResponse_eq_beyond_iff (beyond : fault.isBeyond = true) :
    valueOfResponse response = .error fault ↔ Exceeds response fault := by
  constructor
  · intro failed
    rcases response_cases response with
      ⟨content, holds⟩ | ⟨place, error, reports⟩ | ⟨own, notBeyond, refused⟩
    · rw [holds.valueOfResponse_eq] at failed
      split at failed
      · rename_i found
        cases failed
        rcases tooLarge_of_bytesOfResult found beyond with ⟨count, cause, counts, rfl, tooLarge⟩
        exact .count holds counts tooLarge
      · rename_i bytes found
        rcases tooDeep_of_valueOfBytes failed beyond with
          ⟨text, opened, scalar, rfl, rfl, stopped⟩
        rcases list_or_undecodable found with ⟨items, rfl, stand⟩ | ⟨cause, refused⟩
        · exact .result holds stand scalar stopped
        · cases refused.symm.trans failed
    · rcases reports.valueOfResponse_eq with ⟨own, notBeyond, refused⟩
      cases unshown : place.unshown? error with
      | none =>
          cases (unshown ▸ refused).symm.trans failed
          cases notBeyond.symm.trans beyond
      | some cause =>
          cases (unshown ▸ refused).symm.trans failed
          exact .error reports unshown
    · cases refused.symm.trans failed
      cases notBeyond.symm.trans beyond
  · intro exceeds
    cases exceeds with
    | count holds counts tooLarge =>
        rw [holds.valueOfResponse_eq, bytesOfResult_of_tooLarge counts tooLarge]
    | result list bytes scalar stopped =>
        rw [list.valueOfResponse_eq, bytesOfResult, bytesOfItems_eq_ok_iff.mpr bytes]
        exact (valueOfBytes_encode scalar).trans (by rw [stopped]; rfl)
    | error reports unshown =>
        rcases reports.valueOfResponse_eq with ⟨own, -, refused⟩
        rw [refused, unshown]
        rfl

/-! ## Calls -/

theorem Exceeds.isBeyond (exceeds : Exceeds response fault) : fault.isBeyond = true := by
  cases exceeds <;> rfl

theorem Exchange.Strays.isBeyond {exchange : Exchange} (strays : exchange.Strays fault) :
    fault.isBeyond = true := by
  cases strays with
  | body => rfl
  | response _ _ exceeds => exact exceeds.isBeyond

theorem outcome_of_strays {exchange : Exchange} (request : Request) (query : Query)
    (strays : exchange.Strays fault) :
    outcome request query exchange = .error (failureOfResponse query fault) := by
  cases strays with
  | body accepted stopped => simp [outcome, accepted, stopped, failureOfBody, failureOfResponse]
  | response accepted read exceeds =>
      have failed := (valueOfResponse_eq_beyond_iff exceeds.isBeyond).mpr exceeds
      simp [outcome, accepted, read, failed, Except.mapError]

/-- Why an exchange brings no value: it raises a failure of its own, the query fails, or something
is beyond the machine. -/
theorem failure_cases {request : Request} {exchange : Exchange} {failure : Failure}
    (failed : outcome request query exchange = .error failure) :
    exchange = .raised failure ∨ IsFailureOf query failure ∨ ∃ fault, exchange.Strays fault := by
  cases exchange with
  | raised cause =>
      cases failed
      exact .inl rfl
  | broken report =>
      cases failed
      exact .inr (.inl ⟨_, rfl⟩)
  | responded status reason body =>
      rw [outcome] at failed
      split at failed
      · cases failed
        exact .inr (.inl ⟨_, rfl⟩)
      rename_i accepted
      rw [Bool.not_eq_true] at accepted
      split at failed
      · rename_i unread stopped
        cases unread with
        | notJson error =>
            cases failed
            exact .inr (.inl ⟨_, rfl⟩)
        | tooDeep opened => exact .inr (.inr ⟨_, .body accepted stopped⟩)
      rename_i response read
      rcases mapError_eq_error_iff.mp failed with ⟨fault, refused, rfl⟩
      cases beyond : fault.isBeyond with
      | false => exact .inr (.inl (isFailureOf_iff.mpr beyond))
      | true =>
          have exceeds := (valueOfResponse_eq_beyond_iff beyond).mp refused
          exact .inr (.inr ⟨fault, .response accepted read exceeds⟩)

variable {World : Type}

/-- Why a view call fails for something that is beyond the machine: its arguments are not put into
text, the output refuses the line for it, or it is answered by such an exchange. -/
inductive Endpoint.Strays (endpoint : Endpoint) (transport : Transport (StateM World))
    (query : Query) (world : World) : Failure → Prop where
  | arguments {fault : Unworded}
      (unworded : Place.request.unworded? (carriedArguments query.arguments) = some fault) :
      Strays endpoint transport query world (.unworded fault)
  | line {report : Text}
      (worded : Place.request.unworded? (carriedArguments query.arguments) = none)
      (printed : endpoint.verbose = true)
      (refused : Platform.refusal? (viewLine query) = some report) :
      Strays endpoint transport query world (.unprintable report)
  | exchange {url : Text} {fault : ResponseFault} (asked : endpoint.unasked? query = none)
      (requested : transport.requested endpoint.url = .ok url)
      (strays : ((transport.post (endpoint.request query url)).run world).1.Strays fault) :
      Strays endpoint transport query world (failureOfResponse query fault)

/-- A query is not posted for the reasons that are those of its arguments and its line. -/
theorem strays_of_unasked {endpoint : Endpoint} {transport : Transport (StateM World)}
    {world : World} {failure : Failure} (unasked : endpoint.unasked? query = some failure) :
    endpoint.Strays transport query world failure := by
  rw [Endpoint.unasked?] at unasked
  cases unworded : Place.request.unworded? (carriedArguments query.arguments) with
  | some fault =>
      rw [unworded] at unasked
      cases unasked
      exact .arguments unworded
  | none =>
      rw [unworded] at unasked
      rcases Option.map_eq_some_iff.mp unasked with ⟨report, refused, rfl⟩
      rw [refusedIf] at refused
      split at refused
      · exact .line unworded (by assumption) refused
      · cases refused

/-- A call that strays fails for what it strays for. -/
theorem ask_of_strays {endpoint : Endpoint} {transport : Transport (StateM World)} {world : World}
    {failure : Failure} (strays : endpoint.Strays transport query world failure) :
    ((endpoint.ask transport query).run world).1.outcome = .error failure := by
  cases strays with
  | arguments unworded =>
      simp only [Endpoint.ask, Endpoint.unasked?, unworded]
      rfl
  | line worded printed refused =>
      simp only [Endpoint.ask, Endpoint.unasked?, worded, refusedIf, printed, if_true, refused]
      rfl
  | @exchange url _ asked requested strays =>
      have failed := outcome_of_strays (endpoint.request query url) query strays
      simp only [Endpoint.ask, asked, requested]
      exact failed

/-- What a call strays for is no failure of the query. -/
theorem Endpoint.Strays.not_isFailureOf {endpoint : Endpoint}
    {transport : Transport (StateM World)} {world : World} {failure : Failure}
    (strays : endpoint.Strays transport query world failure) : ¬IsFailureOf query failure := by
  cases strays with
  | arguments _ | line _ _ _ =>
      rintro ⟨cause, same⟩
      cases same
  | exchange _ _ strays =>
      rw [isFailureOf_iff, strays.isBeyond]
      decide

/-- Why a call brings no value: its exchange raises a failure of its own, the query fails, or it
strays. -/
theorem ask_failure_cases {endpoint : Endpoint} {transport : Transport (StateM World)}
    {world : World} {failure : Failure}
    (failed : ((endpoint.ask transport query).run world).1.outcome = .error failure) :
    (∃ request, ((transport.post request).run world).1 = .raised failure) ∨
      IsFailureOf query failure ∨ ∃ failure, endpoint.Strays transport query world failure := by
  cases asked : endpoint.unasked? query with
  | some failure => exact .inr (.inr ⟨failure, strays_of_unasked asked⟩)
  | none =>
      cases requested : transport.requested endpoint.url with
      | error report =>
          simp only [Endpoint.ask, asked, requested] at failed
          cases failed
          exact .inr (.inl ⟨_, rfl⟩)
      | ok url =>
          simp only [Endpoint.ask, asked, requested] at failed
          rcases failure_cases failed with raised | own | ⟨fault, strays⟩
          · exact .inl ⟨_, raised⟩
          · exact .inr (.inl own)
          · exact .inr (.inr ⟨_, .exchange asked requested strays⟩)

/-- Whatever becomes of its request, and whatever a response holds, a view call brings a value or
fails under its account and its method, unless it strays: then it fails for what is beyond the
machine, and not as a query. -/
theorem ask_fails_as_query (endpoint : Endpoint) (transport : Transport (StateM World))
    (plain : ∀ request world failure, ((transport.post request).run world).1 ≠ .raised failure)
    (query : Query) (world : World) :
    let outcome := ((endpoint.ask transport query).run world).1.outcome
    (((∃ value, outcome = .ok value) ∨
        ∃ failure, outcome = .error failure ∧ IsFailureOf query failure) ↔
      ∀ failure, ¬endpoint.Strays transport query world failure) ∧
    ∀ failure, endpoint.Strays transport query world failure → outcome = .error failure := by
  intro outcome
  refine ⟨⟨?_, ?_⟩, fun _ => ask_of_strays⟩
  · intro own failure strays
    rw [show outcome = _ from ask_of_strays strays] at own
    rcases own with ⟨value, impossible⟩ | ⟨_, same, own⟩
    · cases impossible
    · exact strays.not_isFailureOf (Except.error.inj same ▸ own)
  · intro straight
    cases ended : outcome with
    | ok value => exact .inl ⟨value, rfl⟩
    | error failure =>
        rcases ask_failure_cases ended with ⟨request, raised⟩ | own | ⟨other, strays⟩
        · exact absurd raised (plain request world failure)
        · exact .inr ⟨failure, rfl, own⟩
        · exact absurd strays (straight other)

end

attribute [local instance] Platform.accepting Platform.printsAll_accepting

/-- A response with an object in the place of the list of bytes. -/
def keyedBody : Text := "\x7b\"result\":\x7b\"result\":\x7b\"a\":1\x7d\x7d\x7d"

/-- A response with a number of more than sixty-four bits there. -/
def uncountableBody : Text := "\x7b\"result\":\x7b\"result\":9223372036854775808\x7d\x7d"

/-- A transport that takes every address as it is, counts the requests, and answers each of them
with the same body. -/
def respondingWith (body : Text) : Transport (StateM Nat) where
  requested := .ok
  post _ := do
    modify (· + 1)
    return .responded 200 "OK" body

theorem respondingWith_plain (body : Text) (request : Request) (count : Nat) (failure : Failure) :
    (((respondingWith body).post request).run count).1 ≠ .raised failure := by
  intro raised
  cases raised

theorem ask_respondingWith {endpoint : Endpoint} {query : Query} {body : Text} {response : Json}
    (asked : endpoint.unasked? query = none)
    (read : Json.read Platform.bodyRoom body = .ok response) :
    ((endpoint.ask (respondingWith body) query).run 0).1.outcome =
      (valueOfResponse response).mapError (failureOfResponse query) := by
  simp only [Endpoint.ask, asked]
  show outcome (endpoint.request query endpoint.url) query (.responded 200 "OK" body) = _
  simp [outcome, isErrorStatus, read]

/-- No bytes come of an object, and the call fails under its account and its method. -/
theorem ask_fails_as_query_keyed :
    let endpoint : Endpoint := ⟨"https://rpc.testnet.near.org", 30, false⟩
    let query : Query := ⟨"src.near", "get_nodes", none⟩
    let transport := respondingWith keyedBody
    let outcome := ((endpoint.ask transport query).run 0).1.outcome
    (∀ request world failure, ((transport.post request).run world).1 ≠ .raised failure) ∧
      (∀ failure, ¬endpoint.Strays transport query 0 failure) ∧
      ((∃ value, outcome = .ok value) ∨
        ∃ failure, outcome = .error failure ∧ IsFailureOf query failure) := by
  intro endpoint query transport outcome
  have read : Json.read Platform.bodyRoom keyedBody =
      .ok (.obj [("result", .obj [("result", .obj [("a", .int 1)])])]) := by
    show Json.read 990 keyedBody = _
    cbv
  have failed : outcome = .error (.query query.account query.method
      (.response (.undecodable (.itemNotInteger "str")))) :=
    ask_respondingWith rfl read
  have straight : ∀ failure, ¬endpoint.Strays transport query 0 failure := by
    intro failure strays
    cases failed.symm.trans (ask_of_strays strays)
    exact strays.not_isFailureOf ⟨_, rfl⟩
  exact ⟨respondingWith_plain keyedBody, straight,
    (ask_fails_as_query endpoint transport (respondingWith_plain keyedBody) query 0).1.mpr
      straight⟩

/-- A number of more than sixty-four bits in the place of the list of bytes is not reported as a
failed query. -/
theorem ask_uncountable :
    let endpoint : Endpoint := ⟨"https://rpc.testnet.near.org", 30, false⟩
    let query : Query := ⟨"src.near", "get_nodes", none⟩
    let outcome := ((endpoint.ask (respondingWith uncountableBody) query).run 0).1.outcome
    outcome = .error (.range .sizeTooLarge) ∧
      ¬((∃ value, outcome = .ok value) ∨
        ∃ failure, outcome = .error failure ∧ IsFailureOf query failure) := by
  intro endpoint query outcome
  have read : Json.read Platform.bodyRoom uncountableBody =
      .ok (.obj [("result", .obj [("result", .int 9223372036854775808)])]) := by
    show Json.read 990 uncountableBody = _
    cbv
  have failed : outcome = .error (.range .sizeTooLarge) := ask_respondingWith rfl read
  refine ⟨failed, ?_⟩
  rw [failed]
  rintro (⟨value, impossible⟩ | ⟨failure, same, cause, rfl⟩)
  · cases impossible
  · cases same

end Rpc

end SocialMigration
