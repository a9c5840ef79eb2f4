import Mathlib
import SocialMigration.Proofs.Json.Strict
import SocialMigration.Proofs.Signer.Arguments

/-!
# Arguments as strict JSON

Which calls a signing tool can read that keeps to the grammar of JSON. Whatever a page holds, the
text of a call's arguments is printable ASCII; it is a text of the grammar unless a double of the
batch is not finite. Such doubles come of words that only some readers take, and of numbers that the
grammar allows and that are too large for a double.
-/

namespace SocialMigration

namespace Signer

variable {response : Json} {records : List Json} {batch : Batch} {target : Batch.Target}

theorem isText_argumentsText_iff (gas : Int) :
    Json.Strict.IsText (argumentsText (batch.call target gas)) ↔
      ∀ record ∈ batch.records, record.isFinite = true := by
  rw [argumentsText, Json.Strict.isText_written_iff Json.Layout.isBlank_compact]
  simp [Batch.call]

/-- Whatever response carries a page, and whatever part of the page a batch is, the file from which
a call of the batch is sent holds printable ASCII. What it holds is a text of the grammar exactly if
the doubles of the batch are finite; the integers of the batch are short enough to be written. -/
theorem argumentsFile_strict_iff [Platform] (signer : Signer) (target : Batch.Target) (gas : Int)
    (page : Rpc.valueOfResponse response = .ok (.arr records))
    (slice : batch.records <:+: records) :
    let call := batch.call target gas
    ∃ text, text.all Json.isPrintableAscii = true ∧
      (Json.Strict.IsText text ↔ ∀ record ∈ batch.records, record.isFinite = true) ∧
      (∀ record ∈ batch.records, record.isLegible = true) ∧
      (signer.Announces call →
        (Place.argumentsFile.Fits call.arguments →
          ∀ {m : Type → Type} [Monad m] (machine : Machine m), signer.send machine call = do
            let ended ← machine.withFile text (signer.launch machine call)
            return signer.reply call ended) ∧
        (¬Place.argumentsFile.Fits call.arguments →
          ∀ {m : Type → Type} [Monad m] (machine : Machine m), signer.send machine call = do
            let ended ← machine.withFile [] fun _ =>
              return .raised (.unworded ⟨.argumentsFile, .tooDeep⟩)
            return signer.reply call ended)) := by
  intro call
  have legible := Json.isLegible_arr.mp (Rpc.isLegible_of_valueOfResponse page)
  have legible' : ∀ record ∈ batch.records, record.isLegible = true :=
    fun record inside => legible record (slice.subset inside)
  refine ⟨argumentsText call, ?_, isText_argumentsText_iff gas, legible', ?_⟩
  · exact Json.Strict.printable_written Json.Strict.passes_compact _
  · intro announces
    exact ⟨fun fits _ _ _ => send_of_fits announces fits,
      fun unfit _ _ _ => send_of_unworded announces (unworded?_of_not_fits legible' unfit)⟩

attribute [local instance] Platform.accepting Platform.printsAll_accepting

/-- A response with a page of two records: an object with a control character, a surrogate and two
zeros in it, and a number that is too large for a double. -/
def overflowingResponse : Json :=
  let text : Text := "[\x7b\"\\u0007\": [\"\\ud83d\", -0.0, 1e-400]\x7d, 1e400]"
  .obj [("result", .obj [("result", .arr ((Utf8.encode text).map fun byte => .int byte.toNat))])]

/-- The records of that page. -/
def overflowingRecords : List Json :=
  [.obj [([0x07], .arr [.str [0xD83D], .float (.finite true 0 (-1074)),
    .float (.finite false 0 (-1074))])], .float (.infinite false)]

/-- Where the records of that page go. -/
def overflowingTarget : Batch.Target :=
  ⟨"new.testnet", "genesis_init_nodes", "nodes", none⟩

theorem value_overflowingResponse :
    Rpc.valueOfResponse overflowingResponse = .ok (.arr overflowingRecords) := by
  cbv

/-- The first record of that page goes out as a text of the grammar. -/
theorem argumentsFile_strict_iff_zeros :
    let signer : Signer := ⟨"new.testnet", "testnet", "near", false⟩
    let call := Batch.call overflowingTarget 7 ⟨0, overflowingRecords.take 1⟩
    Rpc.valueOfResponse overflowingResponse = .ok (.arr overflowingRecords) ∧
      signer.Announces call ∧ Place.argumentsFile.Fits call.arguments ∧
      ∃ text, text.all Json.isPrintableAscii = true ∧ Json.Strict.IsText text ∧
        ∀ {m : Type → Type} [Monad m] (machine : Machine m), signer.send machine call = do
          let ended ← machine.withFile text (signer.launch machine call)
          return signer.reply call ended := by
  intro signer call
  have slice : (Batch.mk 0 (overflowingRecords.take 1)).records <:+: overflowingRecords :=
    (List.take_prefix 1 overflowingRecords).isInfix
  have finite : ∀ record ∈ overflowingRecords.take 1, record.isFinite = true := by
    intro record inside
    rcases List.mem_singleton.mp inside with rfl
    rfl
  have announces : signer.Announces call := fun _ => rfl
  have fits : Place.argumentsFile.Fits call.arguments := ⟨by decide, by decide⟩
  rcases argumentsFile_strict_iff signer overflowingTarget 7 value_overflowingResponse slice with
    ⟨text, printable, strict, -, sends⟩
  exact ⟨value_overflowingResponse, announces, fits, text, printable, strict.mpr finite,
    (sends announces).1 fits⟩

/-- The second record, a number that the grammar allows, goes out as a word that it does not. -/
theorem arguments_overflow :
    Rpc.valueOfResponse overflowingResponse = .ok (.arr overflowingRecords) ∧
      overflowingRecords.drop 1 <:+: overflowingRecords ∧
      argumentsText (Batch.call overflowingTarget 7 ⟨1, overflowingRecords.drop 1⟩) =
        Text.ofString "\x7b\"nodes\":[Infinity]\x7d" ∧
      ¬Json.Strict.IsText
        (argumentsText (Batch.call overflowingTarget 7 ⟨1, overflowingRecords.drop 1⟩)) := by
  refine ⟨value_overflowingResponse, (List.drop_suffix 1 overflowingRecords).isInfix, by cbv, ?_⟩
  rw [isText_argumentsText_iff]
  intro finite
  exact Bool.false_ne_true (finite (.float (.infinite false)) (List.mem_singleton_self _))

end Signer

end SocialMigration
