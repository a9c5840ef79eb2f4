import SocialMigration.Proofs.Batch.Slices
import SocialMigration.Proofs.Run.Writes

/-!
# What a commit leaves behind

A batch is announced and its call is made. The batches of a commit do so one after the other: either
all of them are written, or the first that is not ends the commit with a failure that names its
records, and none after it is announced.
-/

namespace SocialMigration

namespace Batch

variable {World : Type} {network : Network (StateM World)} {limits : BatchLimits} {target : Target}
  {total : Nat} {session : Session} {world : World}

/-- The events of a batch: its announcement and its call. -/
def events (target : Target) (gas : Int) (total : Nat) (outcome : Except Failure Unit)
    (batch : Batch) : List Event :=
  [.announced batch.first batch.last total, .called (batch.call target gas) outcome]

/-- The events of batches that are all written. -/
def writtenEvents (target : Target) (gas : Int) (total : Nat) (batches : List Batch) :
    List Event :=
  batches.flatMap (events target gas total (.ok ()))

/-- The events of batches of which the last is not written. -/
def stoppedEvents (target : Target) (gas : Int) (total : Nat) (done : List Batch) (batch : Batch)
    (cause : Failure) : List Event :=
  writtenEvents target gas total done ++ events target gas total (.error cause) batch

section

variable [Platform] [Platform.PrintsAll]

private theorem send_ends (batch : Batch) {before : Session}
    (announced : session.Logs [.announced batch.first batch.last total] before) :
    Run.Ends (do
      match ← Run.send network (batch.call target limits.gas) with
      | .ok () => Run.printIf limits.verbose (committedLine batch.last total)
      | .error cause =>
        Run.fail (.batch target.contract target.method batch.first batch.last total cause))
      before world
      (fun _ later _ => session.Logs (events target limits.gas total (.ok ()) batch) later)
      (fun failure later _ => ∃ cause,
        failure = .batch target.contract target.method batch.first batch.last total cause ∧
        session.Logs (events target limits.gas total (.error cause) batch) later) := by
  rw [Run.ends_bind]
  refine (Run.send_ends (batch.call target limits.gas)).mono ?_ (fun _ _ _ => False.elim)
  intro outcome later after ended
  have logs := announced.append ended.2
  cases outcome with
  | error cause => exact ⟨cause, rfl, logs⟩
  | ok =>
      rw [Run.ends_printIf]
      exact logs.andLines _

/-- A batch is written, or the run fails with the records of the batch. -/
theorem commit_ends (batch : Batch) :
    Run.Ends (batch.commit network limits target total) session world
      (fun _ later _ => session.Logs (events target limits.gas total (.ok ()) batch) later)
      (fun failure later _ => ∃ cause,
        failure = .batch target.contract target.method batch.first batch.last total cause ∧
        session.Logs (events target limits.gas total (.error cause) batch) later) := by
  have announced := session.logs_extend [.announced batch.first batch.last total]
  rw [commit, Run.ends_bind, Run.ends_record]
  split
  · rw [Run.ends_bind, Run.ends_print]
    exact send_ends batch (announced.andLines [_])
  · exact send_ends batch announced

/-- One batch after the other is written, until the first that is not. -/
theorem commitFrom_ends (batches : List Batch) (committed : Nat) :
    Run.Ends (commitFrom network limits target total committed batches) session world
      (fun last later _ => last = lastOr committed batches ∧
        session.Logs (writtenEvents target limits.gas total batches) later)
      (fun failure later _ => ∃ done batch rest cause, batches = done ++ batch :: rest ∧
        failure = .batch target.contract target.method batch.first batch.last total cause ∧
        session.Logs (stoppedEvents target limits.gas total done batch cause) later) := by
  induction batches generalizing committed session world with
  | nil => exact ⟨rfl, .refl session⟩
  | cons batch batches ih =>
      rw [commitFrom, Run.ends_bind]
      apply (commit_ends batch).mono
      · intro _ later after logs
        apply (ih batch.last).mono
        · intro last latest _ ended
          rcases ended with ⟨rfl, more⟩
          exact ⟨(lastOr_cons ..).symm, logs.append more⟩
        · intro failure latest _ ended
          rcases ended with ⟨done, failed, rest, cause, rfl, rfl, more⟩
          refine ⟨batch :: done, failed, rest, cause, rfl, rfl, ?_⟩
          simpa [stoppedEvents, writtenEvents] using logs.append more
      · intro failure later _ ended
        rcases ended with ⟨cause, rfl, logs⟩
        exact ⟨[], batch, batches, cause, rfl, rfl, logs⟩

/-- A collection is written from a start index to its end, or up to the batch that is not. -/
theorem commitAll_ends (records : List Json) {start : Int} (nonneg : 0 ≤ start) :
    Run.Ends (commitAll network limits target records start) session world
      (fun last later _ => last = records.length ∧
        session.Logs (writtenEvents target limits.gas records.length
          (all limits.size records start.toNat)) later)
      (fun failure later _ => ∃ done batch rest cause,
        all limits.size records start.toNat = done ++ batch :: rest ∧
        failure =
          .batch target.contract target.method batch.first batch.last records.length cause ∧
        session.Logs (stoppedEvents target limits.gas records.length done batch cause) later) := by
  rw [commitAll, if_neg (by omega)]
  refine (commitFrom_ends _ _).mono ?_ (fun _ _ _ => id)
  intro last later _ ended
  rcases ended with ⟨rfl, logs⟩
  exact ⟨lastOr_all limits.size_pos records start.toNat, logs⟩

end

/-! ## What is written -/

variable {gas : Int} {batches done : List Batch} {method : Text}

@[simp] theorem calls_writtenEvents :
    Event.calls (writtenEvents target gas total batches) =
      (batches.map (call target gas)).map (·, .ok ()) := by
  induction batches with
  | nil => rfl
  | cons batch batches ih => exact congrArg (_ :: ·) ih

@[simp] theorem calls_stoppedEvents {batch : Batch} {cause : Failure} :
    Event.calls (stoppedEvents target gas total done batch cause) =
      (done.map (call target gas)).map (·, .ok ()) ++ [(batch.call target gas, .error cause)] := by
  rw [stoppedEvents, Event.calls_append, calls_writtenEvents]
  rfl

@[simp] theorem succeeded_writtenEvents :
    Event.succeeded method (writtenEvents target gas total batches) =
      if target.method == method then batches.map (call target gas) else [] := by
  induction batches with
  | nil => simp [writtenEvents]
  | cons batch batches ih =>
      have head : Event.succeeded method (events target gas total (.ok ()) batch) =
          if target.method == method then [batch.call target gas] else [] :=
        Event.succeeded_called
      rw [writtenEvents, List.flatMap_cons, Event.succeeded_append, head]
      rw [writtenEvents] at ih
      rw [ih]
      split <;> rfl

@[simp] theorem succeeded_stoppedEvents {batch : Batch} {cause : Failure} :
    Event.succeeded method (stoppedEvents target gas total done batch cause) =
      if target.method == method then done.map (call target gas) else [] := by
  rw [stoppedEvents, Event.succeeded_append, succeeded_writtenEvents]
  exact List.append_nil _

/-- What the calls of batches write is the records of the batches. -/
theorem flatMap_records_calls :
    (batches.map (call target gas)).flatMap Call.records = batches.flatMap Batch.records := by
  rw [List.flatMap_map]
  rfl

end Batch

end SocialMigration
