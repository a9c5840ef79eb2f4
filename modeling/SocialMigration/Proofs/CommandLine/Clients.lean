import SocialMigration.CommandLine.Dialogue
import SocialMigration.Proofs.Rpc.Failing
import SocialMigration.Proofs.Run.Trace
import SocialMigration.Proofs.Signer.Launch

/-!
# The clients of the program

What the program writes and reads with says why a query or a call has failed, in its own words or in
those of what is around it. It never says that a batch has failed: that is for the commit, which
knows the records of the batch.
-/

namespace SocialMigration

theorem Rpc.isBatch_failureOfResponse (query : Query) (fault : Rpc.ResponseFault) :
    (Rpc.failureOfResponse query fault).isBatch = false := by
  cases fault with
  | countTooLarge fault => cases fault <;> rfl
  | _ => rfl

section

variable [Platform] {World : Type} {failure : Failure}

namespace Rpc

variable {query : Query}

theorem Endpoint.Strays.isBatch {endpoint : Endpoint} {transport : Transport (StateM World)}
    {world : World} (strays : endpoint.Strays transport query world failure) :
    failure.isBatch = false := by
  cases strays with
  | arguments _ | line _ _ _ => rfl
  | exchange _ _ _ => exact isBatch_failureOfResponse query _

/-- Over a transport that raises nothing of a batch, no query fails as one. -/
theorem isBatch_of_ask {endpoint : Endpoint} {transport : Transport (StateM World)} {world : World}
    (raised : ∀ request failure, ((transport.post request).run world).1 = .raised failure →
      failure.isBatch = false)
    (failed : ((endpoint.ask transport query).run world).1.outcome = .error failure) :
    failure.isBatch = false := by
  rcases ask_failure_cases failed with ⟨request, raised'⟩ | ⟨cause, rfl⟩ | ⟨other, strays⟩
  · exact raised request failure raised'
  · rfl
  · obtain rfl := Except.error.inj (failed.symm.trans (ask_of_strays strays))
    exact strays.isBatch

end Rpc

namespace Signer

variable {signer : Signer} {call : Call}

theorem isBatch_of_reply {ended : ProcessEnd}
    (raised : ∀ failure, ended = .raised failure → failure.isBatch = false)
    (failed : (signer.reply call ended).outcome = .error failure) : failure.isBatch = false := by
  rw [reply] at failed
  split at failed
  · cases failed
    rfl
  cases ended with
  | raised cause =>
      cases failed
      exact raised _ rfl
  | notStarted report =>
      cases failed
      rfl
  | exited code output errors =>
      simp only [outcome] at failed
      split at failed
      all_goals cases failed
      rfl

/-- On a machine that raises nothing of a batch, no call fails as one. -/
theorem isBatch_of_send {machine : Machine (StateM World)} {world : World}
    (raised : ∀ command world failure, ((machine.run command).run world).1 = .raised failure →
      failure.isBatch = false)
    (failed : ((signer.send machine call).run world).1.outcome = .error failure) :
    failure.isBatch = false := by
  have launched (path : Text) (during : World) (cause : Failure)
      (ended : ((signer.launch machine call path).run during).1 = .raised cause) :
      cause.isBatch = false := by
    rw [launch] at ended
    split at ended
    · exact raised _ during cause ended
    · cases ended
      rfl
  rw [send] at failed
  split at failed
  · cases failed
    rfl
  split at failed
  · apply isBatch_of_reply _ failed
    rintro _ ⟨⟩
    rfl
  · exact isBatch_of_reply (launched _ _) failed

end Signer

end

namespace CommandLine

variable {World : Type}

/-- What surrounds a run may raise failures of its own, but not that of a batch. -/
structure Host.LeavesBatches (host : Host (StateM World)) : Prop where
  post : ∀ request world failure,
    ((host.transport.post request).run world).1 = .raised failure → failure.isBatch = false
  command : ∀ words world failure,
    ((host.machine.run words).run world).1 = .raised failure → failure.isBatch = false

/-- The network of every configuration leaves the failure of a batch to the commit. -/
theorem Host.LeavesBatches.network [Platform] {host : Host (StateM World)}
    (plain : host.LeavesBatches) (config : Config) : (host.network config).LeavesBatches := by
  intro failure fails
  rcases fails with ⟨query, world, failed⟩ | ⟨call, world, failed⟩
  · exact Rpc.isBatch_of_ask (fun request => plain.post request world) failed
  · exact Signer.isBatch_of_send plain.command failed

/-! ## Surroundings that answer -/

/-- An exchange that is read from an answer raises nothing: it is a response, or the report of a
broken transport. -/
theorem Answer.exchange?_ne_raised (answer : Json) (failure : Failure) :
    Answer.exchange? answer ≠ some (.raised failure) := by
  intro raised
  simp only [Answer.exchange?] at raised
  split at raised <;> simp [Option.bind_eq_some_iff] at raised

/-- The end of a program that is read from an answer raises nothing. -/
theorem Answer.processEnd?_ne_raised (answer : Json) (failure : Failure) :
    Answer.processEnd? answer ≠ some (.raised failure) := by
  intro raised
  simp only [Answer.processEnd?] at raised
  split at raised
  · simp [Option.bind_eq_some_iff] at raised
  · cases exit : Answer.field? answer "exit" with
    | none => simp [exit] at raised
    | some value => cases value <;> simp [exit, Option.bind_eq_some_iff] at raised

/-- Surroundings whose exchanges and programs end as their answers say raise nothing, and so leave
the failure of a batch to the commit. -/
theorem Host.leavesBatches_of_answers {host : Host (StateM World)}
    (exchanges : ∀ request world, ∃ answer,
      Answer.exchange? answer = some ((host.transport.post request).run world).1)
    (ends : ∀ words world, ∃ answer,
      Answer.processEnd? answer = some ((host.machine.run words).run world).1) :
    host.LeavesBatches where
  post := by
    intro request world failure raised
    rcases exchanges request world with ⟨answer, read⟩
    exact absurd (raised ▸ read) (Answer.exchange?_ne_raised answer failure)
  command := by
    intro words world failure raised
    rcases ends words world with ⟨answer, read⟩
    exact absurd (raised ▸ read) (Answer.processEnd?_ne_raised answer failure)

end CommandLine

end SocialMigration
