import SocialMigration.Page.Basic
import SocialMigration.Session

/-!
# Committing in batches

A collection is written in batches of consecutive records, one call after the other, because the
destination expects them in order. Records before a start index are taken to be written already.
The first call that fails ends the commit; its failure names the records of the batch, and those
before it stay written.
-/

namespace SocialMigration

/-- Consecutive records of a collection, from an index on. -/
structure Batch where
  first : Nat
  records : List Json
  deriving Repr

/-- How many records a batch holds, which is not zero, the gas of a call, and whether committed
batches are printed. -/
structure BatchLimits where
  size : Nat
  gas : Int
  verbose : Bool
  size_pos : 0 < size

/-- The limits that settings fix. -/
def BatchLimits.ofSettings (size gas : Int) (verbose : Bool) : Except Failure BatchLimits :=
  if size_pos : 0 < size then .ok ⟨size.toNat, gas, verbose, by omega⟩
  else .error (.argument (.notPositive "chunk_size" size))

namespace Batch

/-- The index after the last record. -/
def last (batch : Batch) : Nat :=
  batch.first + batch.records.length

/-- The batches of a collection from a start index on. -/
def all (size : Nat) (records : List Json) (start : Nat) : List Batch :=
  (Progression.offsets start records.length size).map fun offset =>
    ⟨offset.toNat, (records.drop offset.toNat).take size⟩

/-- Where batches go: the method of a contract and the argument that takes the records; and the
kind of records, if the dispatch of each batch is printed. -/
structure Target where
  contract : Text
  method : Text
  argument : Text
  kind : Option Text

/-- The call that writes a batch. -/
def call (target : Target) (gas : Int) (batch : Batch) : Call :=
  ⟨target.contract, target.method, .obj [(target.argument, .arr batch.records)], gas⟩

/-- The line that is printed when a batch is dispatched. -/
def dispatchLine (kind : Text) (first last total : Nat) : Text :=
  "  Initializing " ++ kind ++ " from " ++ Text.ofNat first ++ " to " ++ Text.ofNat last ++
    " out of " ++ Text.ofNat total

/-- The line that is printed when a batch is committed. -/
def committedLine (last total : Nat) : Text :=
  "    Committed " ++ Text.ofNat last ++ "/" ++ Text.ofNat total

variable [Platform] {m : Type → Type} [Monad m]

/-- Writes one batch of a collection of `total` records. -/
def commit (network : Network m) (limits : BatchLimits) (target : Target) (total : Nat)
    (batch : Batch) : Run m Unit := do
  Run.record (.announced batch.first batch.last total)
  match target.kind with
  | some kind => Run.print (dispatchLine kind batch.first batch.last total)
  | none => pure ()
  match ← Run.send network (batch.call target limits.gas) with
  | .ok () => Run.printIf limits.verbose (committedLine batch.last total)
  | .error cause =>
    Run.fail (.batch target.contract target.method batch.first batch.last total cause)

/-- Writes batches in order. The result is the index after the last record written, where
`committed` is that of the records before. -/
def commitFrom (network : Network m) (limits : BatchLimits) (target : Target) (total : Nat) :
    (committed : Nat) → List Batch → Run m Nat
  | committed, [] => pure committed
  | _, batch :: batches => do
    batch.commit network limits target total
    commitFrom network limits target total batch.last batches

/-- Writes a collection from a start index on. The result is the index after its last record. -/
def commitAll (network : Network m) (limits : BatchLimits) (target : Target)
    (records : List Json) (start : Int) : Run m Nat :=
  if start < 0 then Run.fail (.argument (.negative "start_index" start))
  else
    let total := records.length
    commitFrom network limits target total (min start.toNat total)
      (all limits.size records start.toNat)

end Batch

end SocialMigration
