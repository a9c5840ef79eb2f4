import SocialMigration.Proofs.Run.Kept

/-!
# For what reasons parts of a run fail

A part fails for reasons of a kind if every failure that ends it is of that kind, whatever came
before it and whatever the other side does. Whether what goes on with a value fails for such reasons
may depend on the value, so what is known of the values that a part hands on is kept along with its
reasons. What is put together from such parts fails for no other reasons.
-/

namespace SocialMigration

namespace Run

variable {World Value Other : Type} {known : Value → Prop} {passed : Other → Prop}
  {reason : Failure → Prop}

/-- A part that hands on values of a kind, and fails for no other reasons than those of a kind. -/
def Meets (known : Value → Prop) (reason : Failure → Prop) (part : Run (StateM World) Value) :
    Prop :=
  ∀ session world,
    Ends part session world (fun value _ _ => known value) (fun failure _ _ => reason failure)

/-- An outcome with a value of a kind, or with a failure of a kind. -/
def Fulfils (known : Value → Prop) (reason : Failure → Prop) : Except Failure Value → Prop
  | .ok value => known value
  | .error failure => reason failure

/-- A part that fails for no other reasons than those of a kind. -/
abbrev FailsFor (reason : Failure → Prop) (part : Run (StateM World) Value) : Prop :=
  Meets (fun _ => True) reason part

variable {part : Run (StateM World) Value} {next : Value → Run (StateM World) Other}

namespace Meets

theorem pure {value : Value} (is : known value) :
    Meets known reason (Pure.pure value : Run (StateM World) Value) :=
  fun _ _ => is

theorem fail {failure : Failure} (is : reason failure) :
    Meets known reason (Run.fail failure : Run (StateM World) Value) :=
  fun _ _ => is

theorem ofExcept {outcome : Except Failure Value} (fulfils : Fulfils known reason outcome) :
    Meets known reason (Run.ofExcept outcome : Run (StateM World) Value) := by
  intro session world
  cases outcome <;> exact ends_ofExcept.mpr fulfils

/-- What goes on with a value may end in a way that depends on where it starts. -/
theorem ends_bind {session : Session} {world : World} {returned : Other → Session → World → Prop}
    (first : Meets known reason part)
    (second : ∀ value, known value → ∀ later after,
      Ends (next value) later after returned (fun failure _ _ => reason failure)) :
    Ends (part >>= next) session world returned (fun failure _ _ => reason failure) := by
  rw [Run.ends_bind]
  apply (first session world).mono
  · exact fun value later after is => second value is later after
  · exact fun _ _ _ => id

theorem bind (first : Meets known reason part)
    (second : ∀ value, known value → Meets passed reason (next value)) :
    Meets passed reason (part >>= next) :=
  fun _ _ => first.ends_bind second

theorem failsFor (meets : Meets known reason part) : FailsFor reason part :=
  fun session world => (meets session world).mono (fun _ _ _ _ => trivial) fun _ _ _ => id

/-- An attempt hands out an outcome of the part, and does not fail. -/
theorem attempt (meets : Meets known reason part) :
    Meets (Fulfils known reason) reason (Run.attempt part) := by
  intro session world
  rw [ends_attempt]
  exact meets session world

end Meets

namespace FailsFor

theorem pure (value : Value) : FailsFor reason (Pure.pure value : Run (StateM World) Value) :=
  Meets.pure trivial

theorem update (change : Session → Session) :
    FailsFor reason (Run.update change : Run (StateM World) Unit) :=
  fun _ _ => trivial

theorem record (event : Event) : FailsFor reason (Run.record event : Run (StateM World) Unit) :=
  fun _ _ => trivial

theorem session : FailsFor reason (Run.session : Run (StateM World) Session) :=
  fun _ _ => trivial

theorem ofExcept {outcome : Except Failure Value}
    (failed : ∀ failure, outcome = .error failure → reason failure) :
    FailsFor reason (Run.ofExcept outcome : Run (StateM World) Value) := by
  cases outcome with
  | ok value => exact Meets.ofExcept trivial
  | error failure => exact Meets.ofExcept (failed failure rfl)

theorem bind (first : FailsFor reason part)
    (second : ∀ value, Meets passed reason (next value)) :
    Meets passed reason (part >>= next) :=
  Meets.bind first fun value _ => second value

theorem discard (part : Run (StateM World) Value) (fails : FailsFor reason part) :
    FailsFor reason (Functor.discard part) :=
  fails.bind fun _ => FailsFor.pure ()

theorem forM {Item : Type} {action : Item → Run (StateM World) Unit} (items : List Item)
    (each : ∀ item, FailsFor reason (action item)) : FailsFor reason (items.forM action) := by
  induction items with
  | nil => exact .pure ()
  | cons item items ih => exact (each item).bind fun _ => ih

end FailsFor

/-! ## The network -/

variable {network : Network (StateM World)}

theorem meets_await (remote : ∀ failure, network.Fails failure → reason failure)
    (query : Query) : Meets (network.Answers query) reason (await network query) := by
  intro session world
  apply (await_ends query).mono
  · exact fun _ _ _ ended => ended.1
  · exact fun failure _ _ ended => remote failure ended.1

theorem meets_ask (remote : ∀ failure, network.Fails failure → reason failure) (query : Query) :
    Meets (network.Answers query) reason (ask network query) :=
  (FailsFor.record _).bind fun _ => meets_await remote query

/-- Sending a call does not fail itself. What goes on with its outcome may. -/
theorem failsFor_send {next : Except Failure Unit → Run (StateM World) Value} (call : Call)
    (done : FailsFor reason (next (.ok ())))
    (refused : ∀ failure, network.Fails failure → FailsFor reason (next (.error failure))) :
    FailsFor reason (send network call >>= next) := by
  intro session world
  rw [ends_bind]
  refine (send_ends call).mono ?_ (fun _ _ _ => False.elim)
  intro outcome later after ended
  cases outcome with
  | ok => exact done later after
  | error failure => exact refused failure (ended.1 failure rfl) later after

/-! ## The output -/

variable [Platform]

theorem Prints.failsFor (refusal : ∀ failure, IsRefusal failure → reason failure)
    (prints : Prints part) : FailsFor reason part := by
  intro session world
  apply (prints session world).mono
  · exact fun _ _ _ _ => trivial
  · exact fun failure _ _ ended => refusal failure ended.1

/-- A part that requires words for a value fails for no other reason than that it has none. -/
theorem failsFor_requireWords {place : Place} {value : Json}
    (wordless : ∀ fault, place.unworded? value = some fault → reason (.unworded fault)) :
    FailsFor reason (requireWords place value : Run (StateM World) Unit) := by
  intro session world
  rw [ends_requireWords]
  cases found : place.unworded? value with
  | none => trivial
  | some fault => exact wordless fault found

end Run

end SocialMigration
