import Mathlib.Data.List.Forall2

/-!
# Outcomes

An outcome is a value or a refusal. A list whose elements are gone through one after the other has
an outcome as a whole: the values of all of them, or the refusal of the first one that is refused.
-/

namespace SocialMigration

variable {Fault Fault' Item Value : Type} {outcome : Except Fault Value} {change : Fault → Fault'}
  {step : Item → Except Fault Value} {items : List Item} {values : List Value} {fault : Fault}

theorem mapError_eq_ok_iff {value : Value} :
    outcome.mapError change = .ok value ↔ outcome = .ok value := by
  cases outcome <;> simp [Except.mapError]

theorem mapError_eq_error_iff {fault' : Fault'} :
    outcome.mapError change = .error fault' ↔
      ∃ fault, outcome = .error fault ∧ change fault = fault' := by
  cases outcome <;> simp [Except.mapError]

theorem mapM_eq_ok_iff :
    items.mapM step = .ok values ↔
      List.Forall₂ (fun item value => step item = .ok value) items values := by
  induction items generalizing values with
  | nil => cases values <;> simp [pure, Except.pure]
  | cons item items ih =>
      rw [List.mapM_cons]
      cases values with
      | nil =>
          cases step item <;> cases items.mapM step <;> simp [bind, Except.bind, pure, Except.pure]
      | cons value values =>
          rw [List.forall₂_cons, ← ih]
          cases step item <;> cases items.mapM step <;> simp [bind, Except.bind, pure, Except.pure]

/-- A list is refused with the refusal of an element in front of which all have values. -/
theorem mapM_eq_error_iff :
    items.mapM step = .error fault ↔ ∃ front item back, items = front ++ item :: back ∧
      (∀ passed ∈ front, ∃ value, step passed = .ok value) ∧ step item = .error fault := by
  induction items with
  | nil =>
      constructor
      · exact (nomatch ·)
      · rintro ⟨front, item, back, split, -⟩
        exact absurd split.symm (by simp)
  | cons first items ih =>
      rw [List.mapM_cons]
      cases found : step first with
      | error fault' =>
          constructor
          · intro refused
            cases refused
            exact ⟨[], first, items, rfl, fun _ => nofun, found⟩
          · rintro ⟨front, item, back, split, passed, refused⟩
            cases front with
            | nil =>
                cases split
                cases found.symm.trans refused
                rfl
            | cons other front =>
                cases split
                rcases passed first List.mem_cons_self with ⟨value, passes⟩
                cases found.symm.trans passes
      | ok value =>
          have rest : (do let values ← items.mapM step; pure (value :: values)) = .error fault ↔
              items.mapM step = .error fault := by
            cases items.mapM step <;> simp [bind, Except.bind, pure, Except.pure]
          refine rest.trans (ih.trans ?_)
          constructor
          · rintro ⟨front, item, back, rfl, passed, refused⟩
            exact ⟨first :: front, item, back, rfl,
              List.forall_mem_cons.mpr ⟨⟨value, found⟩, passed⟩, refused⟩
          · rintro ⟨front, item, back, split, passed, refused⟩
            cases front with
            | nil =>
                cases split
                cases found.symm.trans refused
            | cons other front =>
                cases split
                exact ⟨front, item, back, rfl, (List.forall_mem_cons.mp passed).2, refused⟩

end SocialMigration
