import SocialMigration.Proofs.Run.Trace

/-!
# What parts of a run keep

A part keeps a condition on the world if the condition holds after the part whenever it held before,
also if the part fails. A part that only prints keeps every condition, and fails only if the output
refuses what it prints.
-/

namespace SocialMigration

namespace Run

variable {World Value Other : Type} {kept : World → Prop}

/-- A part that keeps a condition on the world. -/
def Keeps (kept : World → Prop) (part : Run (StateM World) Value) : Prop :=
  ∀ session world, kept world →
    Ends part session world (fun _ _ after => kept after) (fun _ _ after => kept after)

/-- A failure of the output to take what is printed. -/
def IsRefusal [Platform] (failure : Failure) : Prop :=
  ∃ text report, Platform.refusal? text = some report ∧ failure = .unprintable report

/-- A part that only prints: it changes nothing else of the session and leaves the world as it is,
and comes to its end unless the output refuses something. -/
def Prints [Platform] (part : Run (StateM World) Value) : Prop :=
  ∀ session world, Ends part session world
    (fun _ later after => session.Logs [] later ∧ after = world)
    (fun failure later after => IsRefusal failure ∧ session.Logs [] later ∧ after = world)

variable {part : Run (StateM World) Value} {next : Value → Run (StateM World) Other}

/-- A condition on the world alone does not tell how a part ends. -/
theorem ends_world {session : Session} {world : World} :
    Ends part session world (fun _ _ after => kept after) (fun _ _ after => kept after) ↔
      kept ((startFrom session part).run world).2 := by
  unfold Ends
  rcases (startFrom session part).run world with ⟨⟨_ | _, later⟩, after⟩ <;> rfl

namespace Keeps

theorem pure (value : Value) : Keeps kept (Pure.pure value) :=
  fun _ _ => id

theorem ofExcept (outcome : Except Failure Value) : Keeps kept (Run.ofExcept outcome) := by
  cases outcome <;> exact fun _ _ => id

theorem update (change : Session → Session) : Keeps kept (Run.update change) :=
  fun _ _ => id

theorem record (event : Event) : Keeps kept (Run.record event) :=
  fun _ _ => id

theorem session : Keeps kept Run.session :=
  fun _ _ => id

theorem effect {action : StateM World Value}
    (acts : ∀ world, kept world → kept (action.run world).2) : Keeps kept (Run.effect action) :=
  fun _ => acts

theorem bind (first : Keeps kept part) (second : ∀ value, Keeps kept (next value)) :
    Keeps kept (part >>= next) := by
  intro session world before
  rw [ends_bind]
  apply (first session world before).mono
  · exact fun value later after => second value later after
  · exact fun _ _ _ => id

theorem attempt (keeps : Keeps kept part) : Keeps kept (Run.attempt part) := by
  intro session world before
  rw [ends_attempt]
  exact keeps session world before

theorem discard (part : Run (StateM World) Value) (keeps : Keeps kept part) :
    Keeps kept (Functor.discard part) :=
  keeps.bind fun _ => .pure ()

theorem forM {Item : Type} {action : Item → Run (StateM World) Unit} (items : List Item)
    (each : ∀ item, Keeps kept (action item)) : Keeps kept (items.forM action) := by
  induction items with
  | nil => exact .pure ()
  | cons item items ih => exact (each item).bind fun _ => ih

theorem requireWords [Platform] (place : Place) (value : Json) :
    Keeps kept (Run.requireWords place value : Run (StateM World) Unit) := by
  intro session world before
  rw [ends_requireWords]
  split <;> exact before

/-- What a network keeps when it is asked is kept until its answer has come. -/
theorem await {network : Network (StateM World)} {query : Query}
    (acts : ∀ world, kept world → kept ((network.ask query).run world).2) :
    Keeps kept (Run.await network query) := by
  apply (effect acts).bind
  intro reply
  apply (forM _ fun _ => record _).bind
  intro _
  exact (record _).bind fun _ => .ofExcept _

theorem ask {network : Network (StateM World)} {query : Query}
    (acts : ∀ world, kept world → kept ((network.ask query).run world).2) :
    Keeps kept (Run.ask network query) :=
  (record _).bind fun _ => await acts

end Keeps

namespace Prints

variable [Platform]

theorem keeps (prints : Prints part) : Keeps kept part := by
  intro session world before
  apply (prints session world).mono
  · rintro _ _ _ ⟨-, rfl⟩
    exact before
  · rintro _ _ _ ⟨-, -, rfl⟩
    exact before

theorem pure (value : Value) : Prints (Pure.pure value : Run (StateM World) Value) :=
  fun session _ => ⟨.refl session, rfl⟩

theorem printBlock (lines : List Text) :
    Prints (Run.printBlock lines : Run (StateM World) Unit) := by
  intro session world
  rw [ends_printBlock_cases]
  split
  · exact ⟨session.logs_printed lines, rfl⟩
  · rename_i refused
    exact ⟨⟨_, _, refused, rfl⟩, .refl session, rfl⟩

theorem print (line : Text) : Prints (Run.print line : Run (StateM World) Unit) :=
  printBlock [line]

theorem printIf (wanted : Bool) (line : Text) :
    Prints (Run.printIf wanted line : Run (StateM World) Unit) := by
  cases wanted
  · exact .pure ()
  · exact .print line

theorem bind (first : Prints part) (second : ∀ value, Prints (next value)) :
    Prints (part >>= next) := by
  intro session world
  rw [ends_bind]
  apply (first session world).mono
  · rintro value later after ⟨front, rfl⟩
    apply (second value later after).mono
    · exact fun _ _ _ ended => ⟨front.append ended.1, ended.2⟩
    · exact fun _ _ _ ended => ⟨ended.1, front.append ended.2.1, ended.2.2⟩
  · exact fun _ _ _ => id

theorem printAll (lines : List Text) : Prints (Run.printAll lines : Run (StateM World) Unit) := by
  induction lines with
  | nil => exact .pure ()
  | cons line lines ih => exact (print line).bind fun _ => ih

end Prints

end Run

end SocialMigration
