import SocialMigration.Proofs.Run.Trace

/-!
# Phases of reading

Reading goes in phases: each has its queries, and says which answers they need. A trace follows
phases if its queries are those of the phases one after the other, up to somewhere, and a phase is
entered only when all queries of the phases before it have been answered acceptably.
-/

namespace SocialMigration

open scoped List

namespace Migration

/-- A phase of reading: its queries, in order, and the answers that are acceptable. -/
structure Phase where
  queries : List Query
  accepts : Json → Prop

/-- All queries of a phase have been answered acceptably in a trace. -/
def Phase.Answered (phase : Phase) (trace : List Event) : Prop :=
  ∀ query ∈ phase.queries, ∃ answer,
    .answered query (.ok answer) ∈ trace ∧ phase.accepts answer

/-- A trace in which a phase is completed. -/
structure Phase.Completed (phase : Phase) (trace : List Event) : Prop where
  asked : trace.filterMap Event.query? = phase.queries
  answered : phase.Answered trace

theorem Phase.Answered.subset {phase : Phase} {trace more : List Event}
    (answered : phase.Answered trace) (within : trace ⊆ more) : phase.Answered more := by
  intro query member
  rcases answered query member with ⟨answer, found, accepted⟩
  exact ⟨answer, within found, accepted⟩

/-- A trace follows phases of which a number is completed: the one after them may have begun. -/
inductive Follows : List Phase → Nat → List Event → Prop where
  | nothing : Follows [] 0 []
  | begun {phase : Phase} {ahead : List Phase} {trace : List Event} :
      trace.filterMap Event.query? <+: phase.queries → Follows (phase :: ahead) 0 trace
  | completed {phase : Phase} {ahead : List Phase} {count : Nat} {front back : List Event} :
      phase.Completed front → Follows ahead count back →
      Follows (phase :: ahead) (count + 1) (front ++ back)

theorem queries_split (before : List Event) (query : Query) (after : List Event) :
    (before ++ .asked query :: after).filterMap Event.query? =
      before.filterMap Event.query? ++ [query] ++ after.filterMap Event.query? := by
  rw [List.filterMap_append, List.append_assoc]
  rfl

namespace Follows

variable {phases front back : List Phase} {count : Nat} {trace more before after : List Event}
  {query : Query}

/-- The queries of phases are asked up to somewhere. -/
theorem queries_prefix (follows : Follows phases count trace) :
    trace.filterMap Event.query? <+: phases.flatMap Phase.queries := by
  induction follows with
  | nothing => exact List.nil_prefix
  | begun asked => exact asked.trans (List.prefix_append ..)
  | completed done _ ih =>
      rw [List.filterMap_append, done.asked, List.flatMap_cons]
      exact (List.prefix_append_right_inj _).mpr ih

/-- All queries of completed phases are asked. -/
theorem prefix_queries (follows : Follows phases count trace) {number : Nat}
    (enough : number ≤ count) :
    (phases.take number).flatMap Phase.queries <+: trace.filterMap Event.query? := by
  induction follows generalizing number with
  | nothing => simp
  | begun asked =>
      rw [Nat.le_zero.mp enough]
      exact List.nil_prefix
  | completed done _ ih =>
      cases number with
      | zero => exact List.nil_prefix
      | succ number =>
          rw [List.filterMap_append, done.asked, List.take_succ_cons, List.flatMap_cons]
          exact (List.prefix_append_right_inj _).mpr (ih (Nat.le_of_succ_le_succ enough))

/-- All queries of completed phases are answered acceptably. -/
theorem answered (follows : Follows phases count trace) :
    ∀ phase ∈ phases.take count, phase.Answered trace := by
  induction follows with
  | nothing => simp
  | begun asked => simp
  | completed done _ ih =>
      rw [List.take_succ_cons, List.forall_mem_cons]
      exact ⟨done.answered.subset (List.subset_append_left ..),
        fun phase member => (ih phase member).subset (List.subset_append_right ..)⟩

/-- Where a query is asked, it is the next one of a phase, all queries of the phases before it have
been asked, and all of them have been answered acceptably. -/
theorem entered (follows : Follows phases count trace)
    (split : trace = before ++ .asked query :: after) :
    ∃ done phase ahead asked, phases = done ++ phase :: ahead ∧
      before.filterMap Event.query? = done.flatMap Phase.queries ++ asked ∧
      asked ++ [query] <+: phase.queries ∧ ∀ earlier ∈ done, earlier.Answered before := by
  induction follows generalizing before with
  | nothing => cases before <;> cases split
  | @begun phase ahead trace asked =>
      subst split
      rw [queries_split] at asked
      exact ⟨[], phase, ahead, _, rfl, rfl, (List.prefix_append ..).trans asked, by simp⟩
  | @completed phase ahead count front back done follows ih =>
      have further (between : List Event) (here : before = front ++ between)
          (there : back = between ++ .asked query :: after) :
          ∃ done phase' ahead' asked, phase :: ahead = done ++ phase' :: ahead' ∧
            before.filterMap Event.query? = done.flatMap Phase.queries ++ asked ∧
            asked ++ [query] <+: phase'.queries ∧
            ∀ earlier ∈ done, earlier.Answered before := by
        rcases ih there with ⟨passed, next, beyond, asked, split, same, within, answered⟩
        refine ⟨phase :: passed, next, beyond, asked, by rw [split]; rfl, ?_, within, ?_⟩
        · rw [here, List.filterMap_append, done.asked, same, List.flatMap_cons, List.append_assoc]
        · rw [here, List.forall_mem_cons]
          exact ⟨done.answered.subset (List.subset_append_left ..),
            fun earlier member => (answered earlier member).subset (List.subset_append_right ..)⟩
      rcases List.append_eq_append_iff.mp split with ⟨between, here, there⟩ | ⟨between, here, there⟩
      · exact further between here there
      · cases between with
        | nil => exact further [] (by simpa using here.symm) there.symm
        | cons event between =>
            rcases List.cons.inj there with ⟨rfl, -⟩
            have asked := done.asked
            rw [here, queries_split] at asked
            exact ⟨[], phase, ahead, _, rfl, rfl, ⟨_, asked⟩, by simp⟩

/-- Two phases are completed. -/
theorem pair {first second : Phase} (done : first.Completed trace)
    (done' : second.Completed more) : Follows [first, second] 2 (trace ++ more) := by
  have follows := Follows.completed done (.completed done' .nothing)
  rwa [List.append_nil] at follows

/-- Phases that are completed may be followed by others. -/
theorem append (full : Follows front front.length trace) (rest : Follows back count more) :
    Follows (front ++ back) (front.length + count) (trace ++ more) := by
  induction front generalizing trace with
  | nil =>
      cases full
      rwa [List.length_nil, Nat.zero_add]
  | cons phase front ih =>
      cases full with
      | completed done follows =>
          rw [List.length_cons, Nat.add_right_comm, List.append_assoc]
          exact .completed done (ih follows)

/-- Other phases may be left for later. -/
theorem widen (follows : Follows front count trace) (back : List Phase) :
    Follows (front ++ back) count trace := by
  induction follows with
  | nothing =>
      cases back with
      | nil => exact .nothing
      | cons phase ahead => exact .begun List.nil_prefix
  | begun asked => exact .begun asked
  | completed done _ ih => exact .completed done ih

end Follows

end Migration

end SocialMigration
