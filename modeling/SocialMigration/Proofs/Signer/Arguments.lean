import Mathlib
import SocialMigration.Batch
import SocialMigration.Proofs.Json.RoundTrip
import SocialMigration.Proofs.Rpc.Response
import SocialMigration.Signer

/-!
# Records in, records out

Records leave as they came. What a response carries is legible, because it was read from the strict
UTF-8 text of the response's bytes; so is the object that a batch of its records is sent in; and a
legible value is read back from the text that is written for it.
-/

namespace SocialMigration

namespace Rpc

/-- What a response carries is legible. -/
theorem isLegible_of_valueOfResponse [Platform] {response value : Json}
    (found : valueOfResponse response = .ok value) : value.isLegible = true := by
  rcases valueOfResponse_eq_ok_iff.mp found with ⟨-, -, scalar, json⟩
  exact Json.isLegible_of_read scalar json

end Rpc

namespace Signer

variable {response : Json} {records : List Json} {batch : Batch} {target : Batch.Target}

/-- The argument of a call holds the records of a batch as they were in a page. -/
theorem isReadFrom_argumentsText (unpaired : target.argument.isUnpaired = true)
    (doubleFree : ∀ record ∈ batch.records, record.isFloatFree = true)
    (legible : ∀ record ∈ batch.records, record.isLegible = true) (gas : Int) :
    Json.IsReadFrom (argumentsText (batch.call target gas))
      (.obj [(target.argument, .arr batch.records)]) := by
  refine Json.isReadFrom_written Json.Layout.isBlank_compact ?_ ?_
  · simpa [Batch.call] using doubleFree
  · simpa [Batch.call, unpaired] using legible

section

variable [Platform] {m : Type → Type} [Monad m] {machine : Machine m} {signer : Signer}
  {call : Call}

/-! ## What is sent -/

/-- Whether the line for a call is printed, if there is one. -/
def Announces (signer : Signer) (call : Call) : Prop :=
  signer.verbose = true → Platform.refusal? (callLine signer call) = none

theorem refusedIf_eq_none (announces : signer.Announces call) :
    refusedIf signer.verbose (callLine signer call) = none := by
  rw [refusedIf]
  split
  · exact announces (by assumption)
  · rfl

/-- A call whose arguments fit is sent from a file with their text. -/
theorem send_of_fits (announces : signer.Announces call)
    (fits : Place.argumentsFile.Fits call.arguments) :
    signer.send machine call = do
      let ended ← machine.withFile (argumentsText call) (signer.launch machine call)
      return signer.reply call ended := by
  simp only [send, refusedIf_eq_none announces, Place.unworded?_eq_none_iff.mpr fits]

/-- A call whose arguments do not fit is given up. -/
theorem send_of_unworded (announces : signer.Announces call) {fault : Unworded}
    (unworded : Place.argumentsFile.unworded? call.arguments = some fault) :
    signer.send machine call = do
      let ended ← machine.withFile [] fun _ => return .raised (.unworded fault)
      return signer.reply call ended := by
  simp only [send, refusedIf_eq_none announces, unworded]

/-- A call whose line is refused does nothing. -/
theorem send_of_refused {report : Text} (verbose : signer.verbose = true)
    (refused : Platform.refusal? (callLine signer call) = some report) :
    signer.send machine call = pure ⟨[], .error (.unprintable report)⟩ := by
  simp only [send, refusedIf, verbose, if_true, refused]

/-! ## Batches -/

/-- Records for which there is no room are the only ones that are not written. -/
theorem unworded?_of_not_fits (legible : ∀ record ∈ batch.records, record.isLegible = true)
    {gas : Int} (unfit : ¬Place.argumentsFile.Fits (batch.call target gas).arguments) :
    Place.argumentsFile.unworded? (batch.call target gas).arguments =
      some ⟨.argumentsFile, .tooDeep⟩ := by
  have short : (batch.call target gas).arguments.hasShortIntegers = true := by
    simpa [Batch.call] using fun record inside =>
      Json.hasShortIntegers_of_isLegible (legible record inside)
  exact Place.unworded?_of_lt short (Nat.lt_of_not_le fun height => unfit ⟨height, short⟩)

/-- Records pass through unchanged: whatever response carries a page without doubles, and whatever
part of the page a batch is, the text of the file from which a call of the batch is sent is the JSON
text of exactly the object with these records. If there is no room for that object no program is
started. -/
theorem argumentsFile_reads_back (signer : Signer) (gas : Int)
    (page : Rpc.valueOfResponse response = .ok (.arr records))
    (doubleFree : (Json.arr records).isFloatFree = true)
    (slice : batch.records <:+: records)
    (argument : target.argument = Text.ofString "nodes" ∨
      target.argument = Text.ofString "accounts") :
    let call := batch.call target gas
    let sent : Json := .obj [(target.argument, .arr batch.records)]
    ∃ text, Json.IsReadFrom text sent ∧
      (signer.Announces call →
        (Place.argumentsFile.Fits sent →
          ∀ {m : Type → Type} [Monad m] (machine : Machine m), signer.send machine call = do
            let ended ← machine.withFile text (signer.launch machine call)
            return signer.reply call ended) ∧
        (¬Place.argumentsFile.Fits sent →
          ∀ {m : Type → Type} [Monad m] (machine : Machine m), signer.send machine call = do
            let ended ← machine.withFile [] fun _ =>
              return .raised (.unworded ⟨.argumentsFile, .tooDeep⟩)
            return signer.reply call ended)) ∧
      ∀ report, signer.verbose = true →
        Platform.refusal? (callLine signer call) = some report →
        ∀ {m : Type → Type} [Monad m] (machine : Machine m),
          signer.send machine call = pure ⟨[], .error (.unprintable report)⟩ := by
  intro call sent
  have legible := Json.isLegible_arr.mp (Rpc.isLegible_of_valueOfResponse page)
  have legible' : ∀ record ∈ batch.records, record.isLegible = true :=
    fun record inside => legible record (slice.subset inside)
  rw [Json.isFloatFree_arr] at doubleFree
  have unpaired : target.argument.isUnpaired = true := by
    rcases argument with same | same <;> rw [same] <;> decide
  refine ⟨argumentsText call, isReadFrom_argumentsText unpaired
    (fun record inside => doubleFree record (slice.subset inside)) legible' gas, ?_, ?_⟩
  · intro announces
    exact ⟨fun fits _ _ _ => send_of_fits announces fits,
      fun unfit _ _ _ => send_of_unworded announces (unworded?_of_not_fits legible' unfit)⟩
  · intro report verbose refused _ _ _
    exact send_of_refused verbose refused

end

attribute [local instance] Platform.accepting Platform.printsAll_accepting

/-- A response with a page of two records: an object whose key is not ASCII and which holds a
surrogate escaped on its own, and an integer of more than sixty-four bits. -/
def awkwardResponse : Json :=
  let text : Text := "[\x7b\"é\": [\"\\ud83d\", -0, null]\x7d, 18446744073709551616]"
  .obj [("result", .obj [("result", .arr ((Utf8.encode text).map fun byte => .int byte.toNat))])]

/-- The records of that page. -/
def awkwardRecords : List Json :=
  [.obj [([0xE9], .arr [.str [0xD83D], .int 0, .null])], .int 18446744073709551616]

/-- Where the records of that page go. -/
def awkwardTarget : Batch.Target :=
  ⟨"new.testnet", "genesis_init_nodes", "nodes", none⟩

theorem argumentsFile_reads_back_awkward :
    let signer : Signer := ⟨"new.testnet", "testnet", "near", true⟩
    let call := Batch.call awkwardTarget 7 ⟨0, awkwardRecords.take 1⟩
    let sent : Json := .obj [(Text.ofString "nodes", .arr (awkwardRecords.take 1))]
    Rpc.valueOfResponse awkwardResponse = .ok (.arr awkwardRecords) ∧
      signer.Announces call ∧ Place.argumentsFile.Fits sent ∧
      ∃ text, Json.IsReadFrom text sent ∧
        ∀ {m : Type → Type} [Monad m] (machine : Machine m), signer.send machine call = do
          let ended ← machine.withFile text (signer.launch machine call)
          return signer.reply call ended := by
  intro signer call sent
  have page : Rpc.valueOfResponse awkwardResponse = .ok (.arr awkwardRecords) := by cbv
  have slice : (Batch.mk 0 (awkwardRecords.take 1)).records <:+: awkwardRecords :=
    (List.take_prefix 1 awkwardRecords).isInfix
  have argument : awkwardTarget.argument = Text.ofString "nodes" ∨
      awkwardTarget.argument = Text.ofString "accounts" := .inl rfl
  have announces : signer.Announces call := fun _ => rfl
  have fits : Place.argumentsFile.Fits sent := ⟨by decide, by decide⟩
  rcases argumentsFile_reads_back signer 7 page rfl slice argument with ⟨text, read, sends, -⟩
  exact ⟨page, announces, fits, text, read, (sends announces).1 fits⟩

end Signer

end SocialMigration
