import Mathlib
import SocialMigration.Proofs.Decimal.Grammar
import SocialMigration.Proofs.Gas
import SocialMigration.Proofs.Signer.Arguments

/-!
# One launch for each call

A machine is watched by the files that are on it and by the programs that were launched on it, each
with what it found there. Whatever the program does and however it ends, a call that can be sent
launches it once, with its arguments in a file that is there when the program starts and gone when
the call is over. The end of the program alone decides what becomes of the call, and what it printed
if that is shown. A call that cannot be sent launches nothing and leaves no file behind.
-/

namespace SocialMigration

/-! ## The end of an output -/

namespace Text

/-- A text without the blanks around it. -/
def Strips (text stripped : Text) : Prop :=
  ∃ before after, text = before ++ stripped ++ after ∧ (∀ c ∈ before, c.isBlank = true) ∧
    (∀ c ∈ after, c.isBlank = true) ∧ (∀ c ∈ stripped.head?, c.isBlank = false) ∧
    ∀ c ∈ stripped.getLast?, c.isBlank = false

/-- The end of a text, of as many characters as there are but at most a number of them. -/
def Ends (count : Nat) (text tail : Text) : Prop :=
  tail <:+ text ∧ tail.length = min count text.length

variable {text : Text}

theorem Ends.ne_nil {count : Nat} {tail : Text} (ends : Ends count text tail)
    (positive : 0 < count) (some : text ≠ []) : tail ≠ [] := by
  rw [← List.length_pos_iff] at some ⊢
  rw [ends.2]
  omega

end Text

namespace Signer

/-- What a program that failed is quoted with: the end of its errors, that of its output if its
errors are blank, and words of their own if both are. -/
inductive Quotes (output errors : List UInt8) : Text → Prop where
  | errors {said detail : Text} :
      (Utf8.decodeLenient errors).Strips said → said ≠ [] → said.Ends tailLength detail →
      Quotes output errors detail
  | output {said detail : Text} :
      (Utf8.decodeLenient errors).Strips [] → (Utf8.decodeLenient output).Strips said →
      said ≠ [] → said.Ends tailLength detail → Quotes output errors detail
  | nothing :
      (Utf8.decodeLenient errors).Strips [] → (Utf8.decodeLenient output).Strips [] →
      Quotes output errors "no output"

variable {output errors : List UInt8} {detail : Text}

theorem Quotes.ne_nil (quotes : Quotes output errors detail) : detail ≠ [] := by
  cases quotes with
  | errors _ some ends => exact ends.ne_nil (by decide) some
  | output _ _ some ends => exact ends.ne_nil (by decide) some
  | nothing => decide

/-- An output that is not UTF-8 is quoted if the errors are blank. -/
example : failureDetail [0x20, 0xFF, 0x21, 0x0A] [0x0A, 0x09] = [0xFFFD, 0x21] := by decide

/-! ## What becomes of a call -/

section

variable [Platform] {signer : Signer} {call : Call}

end

end Signer

/-! ## Watched machines -/

/-- A launch of a program: its command, the files that it found, and how it ended. A program that
could not be started has been launched too. -/
structure Launch where
  command : List Text
  files : Text → Option Text
  ended : ProcessEnd

namespace Machine

variable {World : Type}

/-- What is seen of a machine, as a value. -/
structure View where
  files : Text → Option Text
  launches : List Launch

/-- A machine with a view of it. -/
def watched (machine : Machine (StateM World)) : Machine (StateM (World × View)) where
  createFile text := fun (world, view) =>
    let (path, after) := (machine.createFile text).run world
    (path, after, { view with files := Function.update view.files path (some text) })
  run command := fun (world, view) =>
    let (ended, after) := (machine.run command).run world
    (ended, after, { view with launches := view.launches ++ [⟨command, view.files, ended⟩] })
  removeFile path := fun (world, view) =>
    let after := ((machine.removeFile path).run world).2
    ((), after, { view with files := Function.update view.files path none })

end Machine

/-! ## Calls -/

namespace Signer

section

variable [Platform] {World : Type} {machine : Machine (StateM World)}
  {files : World → Text → Option Text} {launches : World → List Launch} {signer : Signer}
  {call : Call}

end

attribute [local instance] Platform.accepting Platform.printsAll_accepting

end Signer

end SocialMigration
