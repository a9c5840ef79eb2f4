import Mathlib.Data.List.Basic
import SocialMigration.Migration.Overview
import SocialMigration.Proofs.Run.Kept

/-!
# The overview is shown

The overview of the results of a run comes to its end, whatever the results are, because the parts
of their report are objects. If the results tell where the next run goes on, that is the last line.
Only the output can keep a line of it from being printed.
-/

namespace SocialMigration

namespace Run

variable [Platform] {World Value Other : Type} {part : Run (StateM World) Value}
  {next : Value → Run (StateM World) Other} {session : Session} {world : World}
  {returned : Other → Session → World → Prop} {failed : Failure → Session → World → Prop}

/-- How a run goes on after a part that only prints, where nothing but lines has been added to an
earlier session so far. -/
theorem Prints.ends_bind {earlier : Session} (prints : Prints part)
    (since : earlier.Logs [] session)
    (refused : ∀ failure later, earlier.Logs [] later → IsRefusal failure →
      failed failure later world)
    (rest : ∀ value later, earlier.Logs [] later →
      Ends (next value) later world returned failed) :
    Ends (part >>= next) session world returned failed := by
  rw [Run.ends_bind]
  apply (prints session world).mono
  · rintro value later _ ⟨logs, rfl⟩
    exact rest value later (since.append logs)
  · rintro failure later _ ⟨refusal, logs, rfl⟩
    exact refused failure later (since.append logs) refusal

end Run

namespace Migration

open Run (Prints IsRefusal)

variable {World : Type}

theorem fieldOr_obj (fields : List (Text × Json)) (key : Text) (standard : Json) :
    (fieldOr (.obj fields) key standard : Run (StateM World) Json) =
      pure ((fields.lookup key).getD standard) :=
  rfl

variable [Platform]

theorem prints_counts (fields : List (Text × Json)) :
    Prints (printCounts (.obj fields) : Run (StateM World) Unit) := by
  simp only [printCounts, fieldOr_obj, pure_bind]
  split
  · exact .pure ()
  · exact (Prints.print _).bind fun _ => (Prints.print _).bind fun _ => .print _

theorem prints_progress (fields : List (Text × Json)) (key label : Text) :
    Prints (printProgress (.obj fields) key label : Run (StateM World) Unit) := by
  simp only [printProgress, fieldOr_obj, pure_bind]
  split
  · exact .pure ()
  · exact .print _

theorem prints_unlessVoid (fields : List (Text × Json)) (key label : Text) :
    Prints (printUnlessVoid (.obj fields) key label : Run (StateM World) Unit) := by
  simp only [printUnlessVoid, fieldOr_obj, pure_bind]
  split
  · exact .print _
  · exact .pure ()

variable {session : Session} {world : World} {returned : Unit → Session → World → Prop}
  {failed : Failure → Session → World → Prop}

/-- The overview of a report whose parts are objects ends as its last line does. -/
theorem overview_ends {fields counts progress : List (Text × Json)}
    (counted : (fields.lookup (Text.ofString "summary")).getD (.obj []) = .obj counts)
    (reached : (fields.lookup (Text.ofString "progress")).getD (.obj []) = .obj progress)
    (refused : ∀ failure later, session.Logs [] later → IsRefusal failure →
      failed failure later world)
    (last : ∀ later, session.Logs [] later →
      Run.Ends (printUnlessVoid (.obj fields) (Text.ofString "resume_hint")
        (Text.ofString "Re-run with")) later world returned failed) :
    Run.Ends (printOverview (.obj fields)) session world returned failed := by
  simp only [printOverview, fieldOr_obj, pure_bind, counted, reached]
  have since := Session.Logs.refl session
  apply (Prints.printAll _).ends_bind since refused
  intro _ _ since
  apply (Prints.print _).ends_bind since refused
  intro _ _ since
  apply (Prints.print _).ends_bind since refused
  intro _ _ since
  apply (Prints.print _).ends_bind since refused
  intro _ _ since
  apply (Prints.print _).ends_bind since refused
  intro _ _ since
  apply (prints_counts counts).ends_bind since refused
  intro _ _ since
  apply (prints_progress progress _ _).ends_bind since refused
  intro _ _ since
  apply (prints_progress progress _ _).ends_bind since refused
  intro _ _ since
  apply (prints_unlessVoid fields _ _).ends_bind since refused
  exact fun _ => last

/-- The overview of results ends as its last line does. -/
theorem overview_results_ends {results : Results}
    (refused : ∀ failure later, session.Logs [] later → IsRefusal failure →
      failed failure later world)
    (last : ∀ fields later, session.Logs [] later →
      fields.lookup (Text.ofString "resume_hint") = results.resumeHint.map Json.str →
      Run.Ends (printUnlessVoid (.obj fields) (Text.ofString "resume_hint")
        (Text.ofString "Re-run with")) later world returned failed) :
    Run.Ends (printOverview results.toJson) session world returned failed := by
  rcases results with ⟨config, startedAt, completedAt, stop, hint, stage, summary, nodes, accounts⟩
  cases summary <;> cases stop <;> cases hint
  all_goals exact overview_ends rfl rfl refused fun _ logs => last _ _ logs rfl

/-- The overview of results comes to its end unless the output refuses a line of it. -/
theorem prints_results (results : Results) :
    Prints (printOverview results.toJson : Run (StateM World) Unit) := by
  intro session world
  apply overview_results_ends
  · exact fun _ _ logs refusal => ⟨refusal, logs, rfl⟩
  · intro fields later logs _
    apply (prints_unlessVoid fields _ _ later world).mono
    · exact fun _ _ _ ended => ⟨logs.append ended.1, ended.2⟩
    · exact fun _ _ _ ended => ⟨ended.1, logs.append ended.2.1, ended.2.2⟩

end Migration

end SocialMigration
