import SocialMigration.Proofs.Migration.Ending

/-!
# When a run returns

The steps of a run never end it, because a failure among them becomes part of the results. A run
returns its results unless they are to be saved and the folder cannot be made or written, or the
output refuses to tell the failure or where the results are. Whether results can be saved depends on
the folder and the files as they were before the run, and not on what the results are.
-/

namespace SocialMigration

namespace RunFolder

/-- What becomes of saving a value does not depend on the value. -/
theorem save_outcome (folder : RunFolder) (tree : FileTree) (fileName : Text)
    (value value' : Json) :
    (folder.save tree fileName value).2.2 = (folder.save tree fileName value').2.2 := by
  have written (folder : RunFolder) (tree : FileTree) :
      (folder.write tree fileName value).2 = (folder.write tree fileName value').2 := by
    unfold write FileTree.writeFile
    cases folder.filePath fileName with
    | error failure => rfl
    | ok path =>
        simp only
        cases tree.locate .writing path with
        | error kind => rfl
        | ok found => rcases found with ⟨trail, _ | _ | _⟩ | trail <;> rfl
  unfold save
  cases folder.current with
  | some path => exact written folder tree
  | none =>
      simp only
      rcases folder.create tree with ⟨folder', tree', _ | path⟩
      · rfl
      · exact written folder' tree'

/-- Whether results can be saved in a folder among some files. -/
def Saves (folder : RunFolder) (tree : FileTree) : Prop :=
  ∃ path, (folder.save tree Migration.resultsFileName .null).2.2 = .ok path

end RunFolder

namespace Migration

/-- The text that is printed about where the results are. -/
def savedText (path : Text) : Text :=
  Text.join [0x0A] (savedLines path)

section

variable [Platform] {World : Type} {host : Host (StateM World)} {config : Config} {world : World}

/-- What becomes of results in the end, with the files as they are then: they are handed back if
they need not be saved, or can be and the output takes the lines that say so; otherwise the run
fails with what was in the way. -/
inductive Closes (config : Config) (folder : RunFolder) (tree : FileTree) (results : Results) :
    Except Failure Results → FileTree → Prop where
  | unwanted (unwanted : config.saveResults = false) :
      Closes config folder tree results (.ok results) tree
  | saved {path : Text} {tree' : FileTree} (wanted : config.saveResults = true)
      (saved : (folder.save tree resultsFileName results.toJson).2 = (tree', .ok path))
      (told : Platform.refusal? (savedText path) = none) :
      Closes config folder tree results (.ok results) tree'
  | untold {path report : Text} {tree' : FileTree} (wanted : config.saveResults = true)
      (saved : (folder.save tree resultsFileName results.toJson).2 = (tree', .ok path))
      (refused : Platform.refusal? (savedText path) = some report) :
      Closes config folder tree results (.error (.unprintable report)) tree'
  | unsaved {failure : Failure} {tree' : FileTree} (wanted : config.saveResults = true)
      (failed : (folder.save tree resultsFileName results.toJson).2 = (tree', .error failure)) :
      Closes config folder tree results (.error failure) tree'

/-- The results that a run has reached when they are to be saved. -/
def unsaved (host : Host (StateM World)) (config : Config) (tree : FileTree) (world : World) :
    Except Failure Results :=
  ((Run.startFrom { tree } (reached host config)).run world).1.1

/-- Saving results closes a run. -/
theorem saveResults_closes (folder : RunFolder) (results : Results) {session : Session}
    (wanted : config.saveResults = true) :
    Run.Ends (saveResults folder results) session world
      (fun _ later _ => Closes config folder session.tree results (.ok results) later.tree)
      (fun failure later _ =>
        Closes config folder session.tree results (.error failure) later.tree) := by
  simp only [saveResults, Run.ends_bind, Run.ends_session, Run.ends_update, Run.ends_ofExcept]
  rcases saved : (folder.save session.tree resultsFileName results.toJson).2 with
    ⟨tree, failure | path⟩
  · simp only [saved]
    exact .unsaved wanted saved
  · simp only [saved, Run.ends_printBlock_cases]
    cases refused : Platform.refusal? (Text.join [0x0A] (savedLines path)) with
    | none => exact .saved wanted saved refused
    | some report => exact .untold wanted saved refused

/-- A run ends without results if what has stopped its steps cannot be told, and closes with the
results that report how its steps have ended if it can. -/
theorem ending_cases (host : Host (StateM World)) (folder : RunFolder) (tree : FileTree)
    (world : World) :
    (∃ cause stopped report,
      stepsEnding host config tree world = (outcomeOf (some cause), stopped) ∧
      Platform.refusal? (errorText cause) = some report ∧
      unsaved host config tree world = .error (.unprintable report) ∧
      (ending host config folder tree world).1 = .error (.unprintable report)) ∨
    ∃ failure stopped results,
      stepsEnding host config tree world = (outcomeOf failure, stopped) ∧ Told failure ∧
      unsaved host config tree world = .ok results ∧ Reports config failure stopped results ∧
      Closes config folder stopped.tree results (ending host config folder tree world).1
        (ending host config folder tree world).2.tree := by
  have reaches : Run.Ends (reached host config) { tree } world _ _ := reached_ends tree
  rcases start : (Run.startFrom { tree } (reached host config)).run world with
    ⟨⟨reason | results, between⟩, after⟩
  · rcases reaches.of_run start with ⟨cause, stopped, report, outcome, refused, rfl, -⟩
    refine .inl ⟨cause, stopped, report, outcome, refused, congrArg (·.1.1) start, ?_⟩
    rw [ending, run_eq, Run.run_bind_of_error start]
  · rcases reaches.of_run start with ⟨failure, stopped, outcome, told, -, files, reports⟩
    refine .inr ⟨failure, stopped, results, outcome, told, congrArg (·.1.1) start, reports, ?_⟩
    rw [ending, run_eq, Run.run_bind_of_ok start, ← files]
    cases wanted : config.saveResults with
    | false => exact .unwanted wanted
    | true =>
        have closes : Run.Ends (saveResults folder results) between after _ _ :=
          saveResults_closes folder results wanted
        rcases left : (Run.startFrom between
          (saveResults folder results : Run (StateM World) Unit)).run after with
          ⟨⟨failure | _, later⟩, latest⟩
        · rw [if_pos rfl, Run.run_bind_of_error left]
          exact closes.of_run left
        · rw [if_pos rfl, Run.run_bind_of_ok left]
          exact closes.of_run left

end

/-! ## Where the output accepts everything -/

section

variable [Platform] {World : Type} {network : Network (StateM World)} {host : Host (StateM World)}
  {config : Config} {session later : Session} {world : World}

/-- No course touches the files. -/
theorem Course.tree_eq {failure : Option Failure}
    (course : Course network config session failure later) : later.tree = session.tree := by
  cases course <;>
  · rename_i logs
    rcases logs with ⟨events, rfl, -⟩
    rfl

variable [Platform.PrintsAll]

/-- A run hands back the results that it has reached, and has saved them if they were to be saved;
or it cannot save them, and fails. -/
theorem ending_saves (host : Host (StateM World)) (folder : RunFolder) (tree : FileTree)
    (world : World) (usable : config.isUsable) :
    ∃ results, unsaved host config tree world = .ok results ∧
      ((ending host config folder tree world).1 = .ok results ∧
          (config.saveResults = true →
            (∃ path, (folder.save tree resultsFileName results.toJson).2.2 = .ok path) ∧
              (ending host config folder tree world).2.tree =
                (folder.save tree resultsFileName results.toJson).2.1) ∨
        ∃ failure, (ending host config folder tree world).1 = .error failure ∧
          config.saveResults = true ∧
          (folder.save tree resultsFileName .null).2.2 = .error failure) := by
  rcases ending_cases host folder tree world with
    ⟨_, _, report, -, refused, -⟩ | ⟨failure, stopped, results, outcome, -, reached, -, closes⟩
  · rw [Platform.PrintsAll.accepts] at refused
    cases refused
  have files : stopped.tree = tree := (course_of_stepsEnding usable outcome).tree_eq
  rw [files] at closes
  refine ⟨results, reached, ?_⟩
  generalize (ending host config folder tree world).1 = ended at closes ⊢
  generalize (ending host config folder tree world).2.tree = tree' at closes ⊢
  cases closes with
  | unwanted unwanted => exact .inl ⟨rfl, by simp [unwanted]⟩
  | saved wanted saved told => exact .inl ⟨rfl, fun _ => by simp [saved]⟩
  | untold wanted saved refused =>
      rw [Platform.PrintsAll.accepts] at refused
      cases refused
  | unsaved wanted failed =>
      exact .inr ⟨_, rfl, wanted, (folder.save_outcome ..).trans (congrArg Prod.snd failed)⟩

/-- A run returns its results, unless they are to be saved and cannot be. -/
theorem ending_returns_iff (host : Host (StateM World)) (folder : RunFolder) (tree : FileTree)
    (world : World) (usable : config.isUsable) :
    (∃ results, (ending host config folder tree world).1 = .ok results) ↔
      (config.saveResults = true → folder.Saves tree) := by
  rcases ending_saves host folder tree world usable with
    ⟨results, -, ⟨returned, saved⟩ | ⟨failure, failed, wanted, refused⟩⟩
  · refine ⟨fun _ saves => ?_, fun _ => ⟨results, returned⟩⟩
    rw [RunFolder.Saves, folder.save_outcome tree resultsFileName .null results.toJson]
    exact (saved saves).1
  · constructor
    · rintro ⟨results, returned⟩
      exact nomatch failed.symm.trans returned
    · intro saves
      rcases saves wanted with ⟨path, saved⟩
      exact nomatch refused.symm.trans saved

end

end Migration

end SocialMigration
