import SocialMigration.Proofs.Batch.Commit
import SocialMigration.Proofs.Migration.Source

/-!
# The first batch that fails

The other side would make something of every call of a collection, were they all made one after the
other. These outcomes decide a commit: if none of them is a failure, all batches are written; and
otherwise the commit ends with the first failure, which names the records of its batch, and with
exactly the calls up to that one behind it.
-/

namespace SocialMigration

namespace Network

variable {World : Type}

/-- What becomes of calls that are made one after the other, whether or not one of them fails. -/
def outcomes (network : Network (StateM World)) : List Call → World → List (Except Failure Unit)
  | [], _ => []
  | call :: calls, world =>
    ((network.send call).run world).1.outcome ::
      network.outcomes calls ((network.send call).run world).2

@[simp] theorem length_outcomes (network : Network (StateM World)) (calls : List Call)
    (world : World) : (network.outcomes calls world).length = calls.length := by
  induction calls generalizing world with
  | nil => rfl
  | cons call calls ih => exact congrArg (· + 1) (ih _)

end Network

/-- The outcome at a place is the first failure among outcomes. -/
structure FailsFirst (outcomes : List (Except Failure Unit)) (place : Nat) (cause : Failure) :
    Prop where
  before : ∀ earlier < place, outcomes[earlier]? = some (.ok ())
  here : outcomes[place]? = some (.error cause)

namespace FailsFirst

variable {outcomes : List (Except Failure Unit)} {place place' : Nat} {cause cause' : Failure}

theorem head (cause : Failure) (outcomes : List (Except Failure Unit)) :
    FailsFirst (.error cause :: outcomes) 0 cause where
  before := fun _ less => absurd less (Nat.not_lt_zero _)
  here := rfl

theorem cons (first : FailsFirst outcomes place cause) :
    FailsFirst (.ok () :: outcomes) (place + 1) cause where
  before := by
    intro earlier less
    cases earlier with
    | zero => rfl
    | succ earlier => exact first.before earlier (by omega)
  here := first.here

theorem not_all_ok (first : FailsFirst outcomes place cause) :
    ¬ ∀ outcome ∈ outcomes, outcome = .ok () := by
  intro fine
  have same := fine _ (List.mem_of_getElem? first.here)
  cases same

theorem unique (first : FailsFirst outcomes place cause)
    (first' : FailsFirst outcomes place' cause') : place = place' ∧ cause = cause' := by
  have same : place = place' := by
    rcases Nat.lt_trichotomy place place' with less | same | less
    · have fine := first'.before place less
      rw [first.here] at fine
      cases fine
    · exact same
    · have fine := first.before place' less
      rw [first'.here] at fine
      cases fine
  subst same
  have here := first.here
  rw [first'.here] at here
  cases here
  exact ⟨rfl, rfl⟩

end FailsFirst

/-! ## The batch at a place -/

namespace Batch

variable {size start : Nat} {records : List Json} {batch : Batch}

theorem all_eq_range (positive : 0 < size) (records : List Json) (start : Nat) :
    all size records start = (List.range ((records.length - start) ⌈/⌉ size)).map fun index =>
      ofFirst size records (start + index * size) := by
  rw [all, Progression.offsets, Progression.count_eq_ceilDiv positive, List.map_map]
  apply List.map_congr_left
  intro index _
  have place : ((start : Int) + index * size).toNat = start + index * size := by
    rw [← Int.natCast_mul, ← Int.natCast_add, Int.toNat_natCast]
  simp only [Function.comp_apply, place]
  rfl

theorem eq_of_getElem?_all (positive : 0 < size) {place : Nat}
    (found : (all size records start)[place]? = some batch) :
    batch = ofFirst size records (start + place * size) := by
  rw [all_eq_range positive, List.getElem?_map, Option.map_eq_some_iff] at found
  rcases found with ⟨index, inRange, rfl⟩
  rcases List.getElem?_eq_some_iff.mp inRange with ⟨bound, same⟩
  rw [List.getElem_range] at same
  rw [same]

/-- A batch holds at least one record and at most as many as the limit says. -/
theorem length_of_mem_all (positive : 0 < size) (member : batch ∈ all size records start) :
    0 < batch.records.length ∧ batch.records.length ≤ size := by
  have bounds := first_lt_of_mem positive member
  rw [all_eq_map positive, List.mem_map] at member
  rcases member with ⟨first, -, rfl⟩
  simp only [ofFirst, List.length_take, List.length_drop] at bounds ⊢
  omega

/-- The batch at a place is the one that follows as many batches. -/
theorem length_of_split (positive : 0 < size) {done rest : List Batch} {batch batch' : Batch}
    {place : Nat} (split : all size records start = done ++ batch :: rest)
    (found : (all size records start)[place]? = some batch') (same : batch.first = batch'.first) :
    done.length = place := by
  have here : (all size records start)[done.length]? = some batch := by simp [split]
  rw [eq_of_getElem?_all positive here, eq_of_getElem?_all positive found] at same
  have scaled : done.length * size = place * size := Nat.add_left_cancel same
  exact Nat.eq_of_mul_eq_mul_right positive scaled

/-! ## What outcomes decide -/

variable {World : Type} {network : Network (StateM World)} {limits : BatchLimits} {target : Target}
  {total : Nat} {session : Session} {world : World}

section

variable [Platform] [Platform.PrintsAll]

/-- A batch is written exactly if its call does not fail. -/
theorem commit_outcome (batch : Batch) :
    Run.Ends (batch.commit network limits target total) session world
      (fun _ _ after =>
        ((network.send (batch.call target limits.gas)).run world).1.outcome = .ok () ∧
        after = ((network.send (batch.call target limits.gas)).run world).2)
      (fun failure _ _ => ∃ cause,
        ((network.send (batch.call target limits.gas)).run world).1.outcome = .error cause ∧
        failure = .batch target.contract target.method batch.first batch.last total cause) := by
  rw [commit, Run.ends_bind, Run.ends_record]
  cases target.kind
  all_goals
    simp only [Run.send, Run.ends_bind, Run.ends_print, Run.ends_effect, Run.ends_recordLines,
      Run.ends_record, Run.ends_pure]
    cases outcome : ((network.send (batch.call target limits.gas)).run world).1.outcome with
    | ok => exact Run.ends_printIf.mpr ⟨rfl, rfl⟩
    | error cause => exact ⟨cause, rfl, rfl⟩

/-- Batches are all written if no call fails, and up to the first call that does. -/
theorem commitFrom_outcomes (batches : List Batch) (committed : Nat) :
    Run.Ends (commitFrom network limits target total committed batches) session world
      (fun _ _ _ => ∀ outcome ∈ network.outcomes (batches.map (call target limits.gas)) world,
        outcome = .ok ())
      (fun failure _ _ => ∃ place batch cause, batches[place]? = some batch ∧
        FailsFirst (network.outcomes (batches.map (call target limits.gas)) world) place cause ∧
        failure = .batch target.contract target.method batch.first batch.last total cause) := by
  induction batches generalizing committed session world with
  | nil => simp [commitFrom, Network.outcomes]
  | cons batch batches ih =>
      rw [commitFrom, Run.ends_bind, List.map_cons, Network.outcomes]
      apply (commit_outcome batch).mono
      · intro _ later after ended
        rcases ended with ⟨fine, rfl⟩
        rw [fine]
        apply (ih batch.last).mono
        · intro _ _ _ others
          exact List.forall_mem_cons.mpr ⟨rfl, others⟩
        · intro failure _ _ ended
          rcases ended with ⟨place, failed, cause, found, first, named⟩
          exact ⟨place + 1, failed, cause, found, first.cons, named⟩
      · intro failure _ _ ended
        rcases ended with ⟨cause, failed, named⟩
        rw [failed]
        exact ⟨0, batch, cause, rfl, .head cause _, named⟩

/-- A collection is written to its end if no call fails, and up to the first call that does. -/
theorem commitAll_outcomes (records : List Json) (start : Nat) :
    Run.Ends (commitAll network limits target records start) session world
      (fun last later _ =>
        (∀ outcome ∈
          network.outcomes ((all limits.size records start).map (call target limits.gas)) world,
          outcome = .ok ()) ∧
        last = records.length ∧
        session.Logs (writtenEvents target limits.gas records.length
          (all limits.size records start)) later)
      (fun failure later _ => ∃ place batch cause,
        (all limits.size records start)[place]? = some batch ∧
        FailsFirst
          (network.outcomes ((all limits.size records start).map (call target limits.gas)) world)
          place cause ∧
        failure =
          .batch target.contract target.method batch.first batch.last records.length cause ∧
        session.Logs (stoppedEvents target limits.gas records.length
          ((all limits.size records start).take place) batch cause) later) := by
  have unfolded : commitAll network limits target records start =
      commitFrom network limits target records.length (min start records.length)
        (all limits.size records start) := by
    rw [commitAll, if_neg (by omega)]
    rfl
  have ends : Run.Ends (commitAll network limits target records start) session world _ _ :=
    commitAll_ends records (Int.natCast_nonneg start)
  rw [unfolded] at ends ⊢
  simp only [Int.toNat_natCast] at ends
  apply ((commitFrom_outcomes _ _).and ends).mono
  · intro last later _ ended
    rcases ended with ⟨fine, complete, logs⟩
    exact ⟨fine, complete, logs⟩
  · intro failure later _ ended
    rcases ended with ⟨⟨place, batch, cause, found, first, named⟩,
      done, batch', rest, cause', split, named', logs⟩
    rcases Failure.batch.inj (named.symm.trans named') with ⟨-, -, same, -, -, rfl⟩
    have count := length_of_split limits.size_pos split found same.symm
    have here : (all limits.size records start)[place]? = some batch' := by simp [split, ← count]
    rw [here] at found
    cases found
    refine ⟨place, batch, cause, here, first, named, ?_⟩
    rwa [split, ← count, List.take_left]

/-- A commit is decided by what becomes of the calls of its batches, made one after the other. If
none fails, all of them are made, and the result is the size of the collection. Otherwise those up
to the first that fails are made, and the failure names the records of its batch; the batches before
it hold the records from the start index up to these. Right before its call, and so once for each
call that is made, a batch is announced. -/
theorem commitAll_until_failure (network : Network (StateM World)) (limits : BatchLimits)
    (target : Target) (records : List Json) (start : Nat) (session : Session) (world : World) :
    let batches := all limits.size records start
    let outcomes := network.outcomes (batches.map (call target limits.gas)) world
    batches.length = (records.length - start) ⌈/⌉ limits.size ∧
    (∀ place (batch : Batch), batches[place]? = some batch → batch =
      ⟨start + place * limits.size,
        (records.drop (start + place * limits.size)).take limits.size⟩) ∧
    (∀ batch ∈ batches, 0 < batch.records.length ∧ batch.records.length ≤ limits.size) ∧
    batches.flatMap Batch.records = records.drop start ∧
    ((∀ outcome ∈ outcomes, outcome = .ok ()) →
      Run.Ends (commitAll network limits target records start) session world
        (fun last later _ => last = records.length ∧
          session.Logs
            (batches.flatMap fun batch =>
              [.announced batch.first batch.last records.length,
                .called (batch.call target limits.gas) (.ok ())])
            later)
        (fun _ _ _ => False)) ∧
    (∀ place cause, FailsFirst outcomes place cause →
      ∃ batch, batches[place]? = some batch ∧
        (batches.take place).flatMap Batch.records = (records.take batch.first).drop start ∧
        Run.Ends (commitAll network limits target records start) session world
          (fun _ _ _ => False)
          (fun failure later _ =>
            failure = .batch target.contract target.method (start + place * limits.size)
              (start + place * limits.size + batch.records.length) records.length cause ∧
            session.Logs
              ((batches.take place).flatMap (fun batch =>
                  [.announced batch.first batch.last records.length,
                    .called (batch.call target limits.gas) (.ok ())]) ++
                [.announced batch.first batch.last records.length,
                  .called (batch.call target limits.gas) (.error cause)])
              later)) := by
  intro batches outcomes
  have positive := limits.size_pos
  refine ⟨?_, fun place batch => eq_of_getElem?_all positive,
    fun batch => length_of_mem_all positive, flatMap_records_all positive records start, ?_, ?_⟩
  · rw [show batches = _ from all_eq_range positive records start, List.length_map,
      List.length_range]
  · intro fine
    apply (commitAll_outcomes records start).mono
    · intro last later _ ended
      exact ended.2
    · intro failure later _ ended
      rcases ended with ⟨place, batch, cause, -, first, -, -⟩
      exact first.not_all_ok fine
  · intro place cause first
    have within : place < batches.length := by
      rcases List.getElem?_eq_some_iff.mp first.here with ⟨bound, -⟩
      simpa [outcomes] using bound
    have found : batches[place]? = some batches[place] := List.getElem?_eq_getElem within
    have split : batches = batches.take place ++ batches[place] :: batches.drop (place + 1) := by
      rw [← List.drop_eq_getElem_cons within, List.take_append_drop]
    refine ⟨batches[place], found, flatMap_records_front positive split, ?_⟩
    apply (commitAll_outcomes records start).mono
    · intro last later _ ended
      exact first.not_all_ok ended.1
    · intro failure later _ ended
      rcases ended with ⟨place', batch, cause', found', first', named, logs⟩
      rcases first.unique first' with ⟨rfl, rfl⟩
      rcases Option.some.inj (found.symm.trans found') with rfl
      have start : (batches[place]).first = start + place * limits.size :=
        congrArg Batch.first (eq_of_getElem?_all positive found)
      rw [← start]
      exact ⟨named, logs⟩

end

attribute [local instance] Platform.accepting Platform.printsAll_accepting

/-- Of two batches of nodes, the second is not written if only one call goes through. -/
theorem commitAll_until_failure_pairwise :
    let network := Network.ofLedger "old.testnet" Migration.someNodes Migration.someAccounts
    let limits : BatchLimits := ⟨2, 5, false, by decide⟩
    let target : Target := ⟨"new.testnet", "set_nodes", "nodes", none⟩
    let cause : Failure := .call "new.testnet" "set_nodes" (.reported "not enough balance")
    FailsFirst (network.outcomes ((all 2 Migration.someNodes 0).map (call target 5)) 1) 1 cause ∧
      Run.Ends (commitAll network limits target Migration.someNodes 0) {} 1 (fun _ _ _ => False)
        (fun failure later _ => failure = .batch "new.testnet" "set_nodes" 2 3 3 cause ∧
          Session.Logs {}
            [.announced 0 2 3, .called (call target 5 ⟨0, [.int 1, .int 2]⟩) (.ok ()),
              .announced 2 3 3, .called (call target 5 ⟨2, [.int 3]⟩) (.error cause)]
            later) := by
  intro network limits target cause
  have first : FailsFirst
      (network.outcomes ((all 2 Migration.someNodes 0).map (call target 5)) 1) 1 cause :=
    .cons (.head cause [])
  refine ⟨first, ?_⟩
  have decided := commitAll_until_failure network limits target Migration.someNodes 0 {} 1
  rcases decided.2.2.2.2.2 1 cause first with ⟨batch, found, -, ends⟩
  rcases decided.2.1 1 batch found with rfl
  have offsets : Progression.offsets 0 3 2 = [0, 2] := by decide
  have listed : all limits.size Migration.someNodes 0 =
      [⟨0, [.int 1, .int 2]⟩, ⟨2, [.int 3]⟩] := congrArg (List.map _) offsets
  rw [listed] at ends
  exact ends

end Batch

end SocialMigration
