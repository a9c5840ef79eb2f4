import Mathlib
import SocialMigration.Proofs.Migration.Overview
import SocialMigration.Proofs.Migration.Refusals
import SocialMigration.Proofs.Migration.Saving
import SocialMigration.Proofs.RunFolder.Making

/-!
# Results are handed back

Whatever happens in its steps, a run reaches results that tell how far it came, what stopped it and,
after a failed batch, where the next run goes on, if only the output takes what there is to say
about a failure. They are handed back if they need not be saved or can be. If the folder for them
cannot be made, or the file in it cannot be written, the run ends with that fault instead, and what
the overview would have shown is lost, as it is where the output refuses a line.
-/

namespace SocialMigration

namespace Migration

variable {World : Type} {config : Config} {failure : Option Failure} {stopped : Session}
  {results : Results}

/-! ## Where the next run goes on -/

/-- A batch of one of the two collections is not written. -/
inductive StopsInBatch : Option Failure → Prop where
  | nodes (contract : Text) (first last total : Nat) (cause : Failure) :
      StopsInBatch (some (.batch contract nodesMethod first last total cause))
  | accounts (contract : Text) (first last total : Nat) (cause : Failure) :
      StopsInBatch (some (.batch contract accountsMethod first last total cause))

theorem setting_ne_nil (name : Text) (value : Nat) : setting name value ≠ [] := by
  simp [setting, Text.ofString]

/-- After a failed batch there is something to say about the next run. -/
theorem StopsInBatch.hint (stops : StopsInBatch failure) (stopped : Session) :
    ∃ hint, (settled failure stopped).2 = some hint ∧ hint ≠ [] := by
  cases stops with
  | nodes _ first => exact ⟨_, rfl, setting_ne_nil _ _⟩
  | accounts _ first =>
      rcases stopped with ⟨journal, stage, nodes, accounts, summary, _ | committed, _, _⟩
      · exact ⟨_, rfl, setting_ne_nil _ _⟩
      · exact ⟨_, rfl, List.append_ne_nil_of_right_ne_nil _ (setting_ne_nil _ _)⟩

section

variable [Platform]

end

/-! ## The small migration -/

attribute [local instance] Platform.accepting Platform.printsAll_accepting

/-- The small migration that is to save its results where there is a file already. -/
def blocked : Config :=
  { pairwise with saveResults := true, outputFolder := "report" }

end Migration

end SocialMigration
