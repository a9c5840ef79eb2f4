import Mathlib.Data.List.Basic
import SocialMigration.Proofs.Outcome
import SocialMigration.Settings.Assignments

/-!
# The environment of a configuration

A configuration is loaded from one environment: the surrounding one, with the assignments of the
settings file. How these are merged is left to a library. What it is relied on for is that a file
adds variables and never changes one that is there already; the way in which the program merges them
itself does so.
-/

namespace SocialMigration

namespace Settings

variable {merge : Merge} {tree : FileTree} {environment environment' : Environment}
  {path name value : Text} {config : Config}

/-- The environment from which a configuration is loaded. -/
def effective (merge : Merge) (tree : FileTree) (environment : Environment) (path : Text) :
    Except Failure Environment :=
  if path.isEmpty then .ok environment
  else (environmentWith merge tree environment path).map Prod.fst

/-- Two environments of which the second keeps the variables of the first. -/
def Extends (environment environment' : Environment) : Prop :=
  ∀ name value, environment.lookup name = some value → environment'.lookup name = some value

/-- A way to merge settings files that never changes a variable which is set. -/
def Merge.KeepsSet (merge : Merge) : Prop :=
  ∀ environment text environment', merge environment text = .ok environment' →
    Extends environment environment'

theorem Extends.refl (environment : Environment) : Extends environment environment :=
  fun _ _ => id

theorem Extends.trans {environment'' : Environment} (front : Extends environment environment')
    (back : Extends environment' environment'') : Extends environment environment'' :=
  fun name value found => back name value (front name value found)

/-! ## Merging -/

theorem extends_append (environment added : Environment) :
    Extends environment (environment ++ added) := by
  intro name value found
  rw [List.lookup_append, found]
  rfl

theorem extends_assign {key : Text} {assigned : Option Text}
    (done : assign environment key assigned = .ok environment') :
    Extends environment environment' := by
  unfold assign at done
  split at done
  · cases done
    exact .refl environment
  · split at done
    · cases done
      exact .refl environment
    · split at done
      · cases done
      · split at done
        · cases done
        · cases done
          exact extends_append environment _

theorem extends_assignAll (assignments : List Assignment)
    (done : assignments.foldlM (fun environment (key, value) => assign environment key value)
      environment = .ok environment') : Extends environment environment' := by
  induction assignments generalizing environment with
  | nil =>
      cases done
      exact .refl _
  | cons assignment assignments ih =>
      rcases assignment with ⟨key, assigned⟩
      rw [List.foldlM_cons] at done
      cases first : assign environment key assigned with
      | error fault =>
          simp only [first] at done
          cases done
      | ok between =>
          simp only [first] at done
          exact (extends_assign first).trans (ih done)

theorem keepsSet_withAssignments : Merge.KeepsSet withAssignments := by
  intro environment text environment' merged
  unfold withAssignments at merged
  split at merged
  · cases merged
    exact .refl environment
  · exact extends_assignAll _ merged

/-- A settings file never changes a variable of the environment. -/
theorem extends_effective (keeps : merge.KeepsSet)
    (loaded : effective merge tree environment path = .ok environment') :
    Extends environment environment' := by
  unfold effective environmentWith at loaded
  split at loaded
  · cases loaded
    exact .refl environment
  · split at loaded
    · cases loaded
    · cases loaded
      exact .refl environment
    · cases merged : merge environment ((tree.content? (tidied path)).getD []) with
      | error fault =>
          rw [merged] at loaded
          cases loaded
      | ok between =>
          rw [merged] at loaded
          cases loaded
          exact keeps _ _ _ merged

/-! ## Loading -/

/-- A configuration that an environment holds is one of a dry run if the environment says so. -/
theorem dryRun_ofEnvironment (held : ofEnvironment environment = .ok config) :
    config.dryRun = truthOr environment "DRY_RUN" false := by
  simp only [ofEnvironment, bind, Except.bind] at held
  repeat' split at held
  all_goals cases held
  rfl

/-- What is loaded is what the environment in effect holds, if there is one. -/
theorem load_eq (merge : Merge) (tree : FileTree) (environment : Environment) (path : Text) :
    (load merge tree environment path).2 =
      (effective merge tree environment path).bind fun environment' =>
      (ofEnvironment environment').mapError .setting := by
  unfold load effective
  split
  · rfl
  · cases environmentWith merge tree environment path <;> rfl

/-- A configuration is the one that the environment in effect holds. -/
theorem load_eq_ok (loaded : (load merge tree environment path).2 = .ok config) :
    ∃ environment', effective merge tree environment path = .ok environment' ∧
      ofEnvironment environment' = .ok config := by
  rw [load_eq] at loaded
  cases inEffect : effective merge tree environment path with
  | error failure =>
      rw [inEffect] at loaded
      exact nomatch loaded
  | ok environment' =>
      rw [inEffect] at loaded
      exact ⟨environment', rfl, mapError_eq_ok_iff.mp loaded⟩

/-- Whether a configuration is one of a dry run is decided by the environment in effect. -/
theorem dryRun_of_load (loaded : (load merge tree environment path).2 = .ok config) :
    ∃ environment', effective merge tree environment path = .ok environment' ∧
      config.dryRun = truthOr environment' "DRY_RUN" false := by
  rcases load_eq_ok loaded with ⟨environment', inEffect, held⟩
  exact ⟨environment', inEffect, dryRun_ofEnvironment held⟩

/-- An environment asks for a dry run: the setting is the word `true`, in any case and with any
blanks around it. -/
def AsksDryRun (environment : Environment) : Prop :=
  ∃ value, environment.lookup (Text.ofString "DRY_RUN") = some value ∧
    value.trim.toLowerCase = Text.ofString "true"

theorem AsksDryRun.truthOr (asks : AsksDryRun environment) :
    truthOr environment "DRY_RUN" false = true := by
  rcases asks with ⟨value, found, yes⟩
  rw [Settings.truthOr, found]
  exact beq_iff_eq.mpr yes

theorem AsksDryRun.extend (asks : AsksDryRun environment)
    (extension : Extends environment environment') : AsksDryRun environment' := by
  rcases asks with ⟨value, found, yes⟩
  exact ⟨value, extension _ value found, yes⟩

end Settings

end SocialMigration
