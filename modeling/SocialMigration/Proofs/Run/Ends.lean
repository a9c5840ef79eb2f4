import SocialMigration.Session

/-!
# How parts of a run end

The other side of a run may be anything that keeps a state, a world: what it answers to a query or
makes of a call may depend on everything that happened before. A part of a run, started from a
session in a world, then ends in exactly one way, and the laws below say how the end of a part
depends on the ends of its own parts.

A condition on ends comes in two halves: one for a value that is handed on, one for a failure. The
laws of the primitive parts are equivalences, so a part is carried out by rewriting with them.
-/

namespace SocialMigration

namespace Run

variable {World Value Other : Type}

/-- A part, started from a session in a world, ends with a value and a later session and world that
satisfy one condition, or with a failure and ones that satisfy another. -/
def Ends (part : Run (StateM World) Value) (session : Session) (world : World)
    (returned : Value → Session → World → Prop) (failed : Failure → Session → World → Prop) :
    Prop :=
  match (startFrom session part).run world with
  | ((.ok value, later), after) => returned value later after
  | ((.error failure, later), after) => failed failure later after

variable {part : Run (StateM World) Value} {session : Session} {world : World}
  {returned : Value → Session → World → Prop} {failed : Failure → Session → World → Prop}

theorem Ends.mono {returned' : Value → Session → World → Prop}
    {failed' : Failure → Session → World → Prop} (ends : Ends part session world returned failed)
    (onReturn : ∀ value later after, returned value later after → returned' value later after)
    (onFailure : ∀ failure later after, failed failure later after → failed' failure later after) :
    Ends part session world returned' failed' := by
  unfold Ends at ends ⊢
  split
  · rename_i value later after run
    rw [run] at ends
    exact onReturn value later after ends
  · rename_i failure later after run
    rw [run] at ends
    exact onFailure failure later after ends

/-- Two conditions on one end hold together. -/
theorem Ends.and {returned' : Value → Session → World → Prop}
    {failed' : Failure → Session → World → Prop} (ends : Ends part session world returned failed)
    (ends' : Ends part session world returned' failed') :
    Ends part session world (fun value later after => returned value later after ∧
      returned' value later after) (fun failure later after => failed failure later after ∧
      failed' failure later after) := by
  unfold Ends at ends ends' ⊢
  split
  all_goals
    rename_i run
    rw [run] at ends ends'
    exact ⟨ends, ends'⟩

theorem ends_and_iff {returned' : Value → Session → World → Prop}
    {failed' : Failure → Session → World → Prop} :
    Ends part session world
        (fun value later after => returned value later after ∧ returned' value later after)
        (fun failure later after => failed failure later after ∧ failed' failure later after) ↔
      Ends part session world returned failed ∧ Ends part session world returned' failed' := by
  constructor
  · intro ends
    exact ⟨ends.mono (fun _ _ _ => And.left) fun _ _ _ => And.left,
      ends.mono (fun _ _ _ => And.right) fun _ _ _ => And.right⟩
  · exact fun ends => ends.1.and ends.2

/-- A condition that has nothing to do with an end may be left out of it. -/
theorem ends_and_left_iff {apart : Prop} :
    Ends part session world (fun value later after => apart ∧ returned value later after)
        (fun failure later after => apart ∧ failed failure later after) ↔
      apart ∧ Ends part session world returned failed := by
  unfold Ends
  split <;> rfl

/-- A part ends as it does. -/
theorem ends_run : Ends part session world
    (fun value later after => (startFrom session part).run world = ((.ok value, later), after))
    (fun failure later after =>
      (startFrom session part).run world = ((.error failure, later), after)) := by
  unfold Ends
  split <;> assumption

/-- What a condition says about the end that a part really has. -/
theorem Ends.of_run {outcome : Except Failure Value} {later : Session} {after : World}
    (ends : Ends part session world returned failed)
    (run : (startFrom session part).run world = ((outcome, later), after)) :
    match outcome with
    | .ok value => returned value later after
    | .error failure => failed failure later after := by
  unfold Ends at ends
  rw [run] at ends
  cases outcome <;> exact ends

/-- Conditions that agree on the end that a part has are equivalent. -/
theorem Ends.congr {returned' returned'' : Value → Session → World → Prop}
    {failed' failed'' : Failure → Session → World → Prop}
    (ends : Ends part session world returned failed)
    (onReturn : ∀ value later after, returned value later after →
      (returned' value later after ↔ returned'' value later after))
    (onFailure : ∀ failure later after, failed failure later after →
      (failed' failure later after ↔ failed'' failure later after)) :
    Ends part session world returned' failed' ↔ Ends part session world returned'' failed'' := by
  unfold Ends at ends ⊢
  split
  · rename_i value later after run
    rw [run] at ends
    exact onReturn value later after ends
  · rename_i failure later after run
    rw [run] at ends
    exact onFailure failure later after ends

@[simp] theorem ends_pure {value : Value} :
    Ends (pure value) session world returned failed ↔ returned value session world :=
  Iff.rfl

/-- A part and the part that goes on with its value end as the latter does, unless the former
fails. -/
@[simp] theorem ends_bind {next : Value → Run (StateM World) Other}
    {returned : Other → Session → World → Prop} :
    Ends (part >>= next) session world returned failed ↔
      Ends part session world
        (fun value later after => Ends (next value) later after returned failed) failed := by
  unfold Ends startFrom
  simp only [ExceptT.run_bind, StateT.run_bind]
  rcases (part.run.run session).run world with ⟨⟨_ | _, later⟩, after⟩ <;> rfl

/-- What goes on with a value starts where the value was handed on. -/
theorem run_bind_of_ok {next : Value → Run (StateM World) Other} {value : Value} {later : Session}
    {after : World} (run : (startFrom session part).run world = ((.ok value, later), after)) :
    (startFrom session (part >>= next)).run world = (startFrom later (next value)).run after := by
  unfold startFrom at run ⊢
  simp only [ExceptT.run_bind, StateT.run_bind, run]
  rfl

/-- A failure leaves out what would have gone on with a value. -/
theorem run_bind_of_error {next : Value → Run (StateM World) Other} {failure : Failure}
    {later : Session} {after : World}
    (run : (startFrom session part).run world = ((.error failure, later), after)) :
    (startFrom session (part >>= next)).run world = ((.error failure, later), after) := by
  unfold startFrom at run ⊢
  simp only [ExceptT.run_bind, StateT.run_bind, run]
  rfl

@[simp] theorem ends_discard {returned : Unit → Session → World → Prop} :
    Ends (discard part) session world returned failed ↔
      Ends part session world (fun _ => returned ()) failed := by
  rw [show discard part = part >>= fun _ => pure () from rfl, ends_bind]
  rfl

@[simp] theorem ends_update {change : Session → Session}
    {returned : Unit → Session → World → Prop} :
    Ends (update change) session world returned failed ↔ returned () (change session) world :=
  Iff.rfl

@[simp] theorem ends_session {returned : Session → Session → World → Prop} :
    Ends Run.session session world returned failed ↔ returned session session world :=
  Iff.rfl

@[simp] theorem ends_effect {action : StateM World Value} :
    Ends (effect action) session world returned failed ↔
      returned (action.run world).1 session (action.run world).2 :=
  Iff.rfl

/-- Whether a part fails or not, its attempt hands out its outcome. -/
@[simp] theorem ends_attempt {returned : Except Failure Value → Session → World → Prop} :
    Ends (attempt part) session world returned failed ↔
      Ends part session world (fun value => returned (.ok value))
        (fun failure => returned (.error failure)) := by
  unfold Ends startFrom attempt
  simp only [ExceptT.run_lift, StateT.run_map]
  rcases (part.run.run session).run world with ⟨⟨_ | _, later⟩, after⟩ <;> rfl

/-- A value is handed on, and a failure ends the run. -/
@[simp] theorem ends_ofExcept {outcome : Except Failure Value} :
    Ends (ofExcept outcome) session world returned failed ↔
      match outcome with
      | .ok value => returned value session world
      | .error failure => failed failure session world := by
  cases outcome <;> rfl

end Run

end SocialMigration
