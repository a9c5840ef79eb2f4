import SocialMigration.Proofs.CommandLine.Deeds
import SocialMigration.Proofs.CommandLine.Demands
import SocialMigration.Proofs.Settings.Environment

/-!
# What the program promises

Three promises to whoever starts the program: its exit status tells whether it has done what it was
asked for, a configuration that cannot be used has no effect, and a dry run writes nothing to the
network.
-/

namespace SocialMigration

namespace CommandLine

variable {World : Type} {host : Host (StateM World)} {options : Options} {tree : FileTree}
  {world : World} {texts : List Text}

/-- The exit status of the program; a failure that leaves it counts as one. -/
def exitStatus : Except Failure Nat → Nat
  | .ok status => status
  | .error _ => 1

section

variable [Platform]

/-! ## Success -/

/-- With options the program comes to a migration, and that succeeds. -/
def Succeeds (host : Host (StateM World)) (options : Options) (tree : FileTree) (world : World) :
    Prop :=
  Run.Ends (prepare host options) { tree } world
    (fun prepared before between => ∃ config folder, prepared = .ok (config, folder) ∧
      Run.Ends (migration host config folder) before between
        (fun results _ _ => results.success = true) (fun _ _ _ => False))
    (fun _ _ _ => False)

/-- A part of a run is not ended by a line that the output refuses. -/
def IsPrinted {Value : Type} (part : Run (StateM World) Value) (session : Session) (world : World) :
    Prop :=
  Run.Ends part session world (fun _ _ _ => True) (fun failure _ _ => ¬Run.IsRefusal failure)

omit [Platform] in
theorem exitStatus_eq_zero_iff {session : Session} {part : Run (StateM World) Nat} :
    exitStatus ((Run.startFrom session part).run world).1.1 = 0 ↔
      Run.Ends part session world (fun status _ _ => status = 0) (fun _ _ _ => False) := by
  unfold Run.Ends
  rcases (Run.startFrom session part).run world with ⟨⟨_ | status, later⟩, after⟩
  · simp [exitStatus]
  · rfl

theorem isPrinted_iff {session : Session} {part : Run (StateM World) Nat} :
    IsPrinted part session world ↔ ∀ failure,
      ((Run.startFrom session part).run world).1.1 = .error failure → ¬Run.IsRefusal failure := by
  unfold IsPrinted Run.Ends
  rcases (Run.startFrom session part).run world with ⟨⟨_ | status, later⟩, after⟩ <;> simp

/-- An overview leaves the exit status zero exactly if it is of results that are a success and the
output takes it. -/
theorem overview_zero_iff {results : Migration.Results} {session : Session} :
    let part : Run (StateM World) Nat := do
      Migration.printOverview results.toJson
      return if results.success then 0 else 1
    Run.Ends part session world (fun status _ _ => status = 0) (fun _ _ _ => False) ↔
      results.success = true ∧ IsPrinted part session world := by
  intro part
  rw [IsPrinted, ← Run.ends_and_left_iff, Run.ends_bind, Run.ends_bind]
  apply (Migration.prints_results results session world).congr
  · intro _ _ _ _
    cases results.success <;> simp
  · intro _ _ _ ended
    simp [ended.1]

/-- A migration leaves the exit status zero exactly if it succeeds and the output takes the overview
of it. -/
theorem proceed_zero_iff {config : Config} {folder : RunFolder} {session : Session} :
    Run.Ends (proceed host (.ok (config, folder))) session world (fun status _ _ => status = 0)
        (fun _ _ _ => False) ↔
      Run.Ends (migration host config folder) session world
          (fun results _ _ => results.success = true) (fun _ _ _ => False) ∧
        IsPrinted (proceed host (.ok (config, folder))) session world := by
  rw [IsPrinted, proceed, Run.ends_bind, Run.ends_bind, ← Run.ends_and_iff]
  apply Run.ends_run.congr
  · exact fun _ _ _ _ => overview_zero_iff
  · intro _ _ _ _
    simp

/-- Only the version and a migration that succeeds leave the exit status zero, if the output takes
what is printed. -/
theorem runWith_zero_iff :
    Run.Ends (runWith host options) { tree } world (fun status _ _ => status = 0)
        (fun _ _ _ => False) ↔
      (options.version = true ∨ Succeeds host options tree world) ∧
        IsPrinted (runWith host options) { tree } world := by
  rw [runWith_eq, IsPrinted, Run.ends_bind, Run.ends_bind]
  cases version : options.version with
  | true =>
      simp only [true_or, true_and]
      apply (prepare_ends host options tree world).congr
      · intro prepared before between ended
        cases ended with
        | told => simp [proceed]
        | refused accepted | ready accepted =>
            rw [version] at accepted
            cases accepted
      · rintro _ _ _ (⟨refusal, -⟩ | ⟨accepted, -⟩)
        · simp [refusal]
        · rw [version] at accepted
          cases accepted
  | false =>
      simp only [Bool.false_eq_true, false_or]
      rw [Succeeds, ← Run.ends_and_iff]
      apply (prepare_ends host options tree world).congr
      · intro prepared before between ended
        cases ended with
        | told told =>
            rw [version] at told
            cases told
        | refused => simp [proceed]
        | ready =>
            rw [proceed_zero_iff]
            simp [IsPrinted]
      · intro _ _ _ _
        simp

/-! ## Refusal -/

/-- The options of a command line lead to a configuration that is refused. -/
def Refuses (merge : Settings.Merge) (tree : FileTree) (environment : Settings.Environment)
    (texts : List Text) : Prop :=
  ∃ options, read texts = .start options ∧ options.version = false ∧
    Refused merge tree environment options

/-- A refused configuration leaves everything as it is, and the exit status one if the output takes
what is printed. -/
theorem runWith_refused (version : options.version = false)
    (refused : Refused host.merge tree host.environment options) :
    Run.Ends (runWith host options) { tree } world
      (fun status later after => status = 1 ∧ Untouched { tree } world later after)
      (fun _ later after => Untouched { tree } world later after) := by
  rw [runWith_eq, Run.ends_bind]
  apply (prepare_refused version refused).mono
  · rintro _ later after ⟨rfl, untouched⟩
    exact ⟨rfl, untouched⟩
  · exact fun _ _ _ => id

/-! ## Rehearsal -/

/-- A dry run is asked for, on the command line or by a setting: one of the surrounding environment,
or one that the settings file adds to it. -/
def Rehearses (merge : Settings.Merge) (tree : FileTree) (environment : Settings.Environment)
    (texts : List Text) : Prop :=
  .dryRun ∈ demands texts ∨ Settings.AsksDryRun environment ∨
    ∃ options environment', read texts = .start options ∧
      Settings.effective merge tree environment options.settingsPath = .ok environment' ∧
      Settings.AsksDryRun environment'

omit [Platform] in
/-- In a rehearsal the configuration is one of a dry run, if the settings file changes no setting of
the surrounding environment. -/
theorem Rehearses.dryRun {merge : Settings.Merge} {environment : Settings.Environment}
    {loaded : Config} (rehearses : Rehearses merge tree environment texts)
    (keeps : merge.KeepsSet) (start : read texts = .start options)
    (loads : (Settings.load merge tree environment options.settingsPath).2 = .ok loaded) :
    (options.override loaded).dryRun = true := by
  rcases Settings.dryRun_of_load loads with ⟨inEffect, effective, decided⟩
  rw [Options.override, Bool.or_eq_true]
  rcases rehearses with demanded | asks | ⟨options', other, start', effective', asks⟩
  · exact .inr ((sets_of_read start .dryRun rfl).mpr demanded)
  · rw [decided]
    exact .inl (asks.extend (Settings.extends_effective keeps effective)).truthOr
  · rw [start] at start'
    cases start'
    rw [effective] at effective'
    cases effective'
    rw [decided]
    exact .inl asks.truthOr

theorem runWith_rehearses {deeds : World → List Deed} (records : host.Records deeds)
    (keeps : host.merge.KeepsSet) (rehearses : Rehearses host.merge tree host.environment texts)
    (start : read texts = .start options) :
    Run.Ends (runWith host options) { tree } world
      (fun _ _ after => OnlyPosts (deeds world) (deeds after))
      (fun _ _ after => OnlyPosts (deeds world) (deeds after)) := by
  rw [runWith_eq, Run.ends_bind]
  apply ((prepare_ends host options tree world).and
    (keeps_prepare records.look options { tree } world (.refl _))).mono
  · rintro prepared before between ⟨ended, only⟩
    cases ended with
    | told => exact only
    | refused => exact only
    | ready _ loads usable =>
        exact keeps_proceed records (rehearses.dryRun keeps start loads) before between only
  · intro failure later after ended
    exact ended.2

/-! ## The contract -/

/-- The end of the program that a command line starts, among files and in a world. -/
def ending (host : Host (StateM World)) (tree : FileTree) (world : World) (texts : List Text) :
    (Except Failure Nat × Session) × World :=
  (Run.startFrom { tree } (run host (read texts))).run world

theorem ending_zero_iff (accepted : read texts ≠ .misuse) :
    exitStatus (ending host tree world texts).1.1 = 0 ↔
      (.version ∈ demands texts ∨ .help ∈ demands texts ∨
        ∃ options, read texts = .start options ∧ Succeeds host options tree world) ∧
      ∀ failure, (ending host tree world texts).1.1 = .error failure →
        ¬Run.IsRefusal failure := by
  rw [ending, exitStatus_eq_zero_iff, ← isPrinted_iff]
  cases reading : read texts with
  | misuse => exact absurd reading accepted
  | help =>
      rw [run, IsPrinted, Run.ends_pure, Run.ends_pure]
      simp [help_of_read reading]
  | start options =>
      have version : options.version = true ↔ .version ∈ demands texts :=
        sets_of_read reading .version rfl
      rw [run, runWith_zero_iff, version]
      simp [not_help_of_read reading]

theorem ending_refused (refuses : Refuses host.merge tree host.environment texts) :
    exitStatus (ending host tree world texts).1.1 = 1 ∧
      (ending host tree world texts).1.2.tree = tree ∧
      (ending host tree world texts).2 = world := by
  rcases refuses with ⟨options, start, version, refused⟩
  have ends : Run.Ends (runWith host options) { tree } world _ _ :=
    runWith_refused version refused
  rw [ending, start, run]
  rcases ran : (Run.startFrom { tree } (runWith host options)).run world with
    ⟨⟨_ | status, later⟩, after⟩
  · exact ⟨rfl, ends.of_run ran⟩
  · exact ends.of_run ran

theorem ending_rehearses (keeps : host.merge.KeepsSet)
    (rehearses : Rehearses host.merge tree host.environment texts) {deeds : World → List Deed}
    (records : host.Records deeds) :
    OnlyPosts (deeds world) (deeds (ending host tree world texts).2) := by
  rw [ending]
  cases reading : read texts with
  | misuse => exact .refl _
  | help => exact .refl _
  | start options => exact Run.ends_world.mp (runWith_rehearses records keeps rehearses reading)

/-- What holds of the program for every command line that can be read, among any files and in any
environment, whatever the network answers and whatever the output takes. It ends with the exit
status zero exactly if help or the version has been asked for or its migration succeeds, and the
output has refused no line. If the configuration is refused, it ends with one, and neither the files
nor the world around it have changed. If a dry run is asked for, and the settings file changes no
setting that there is already, nothing is done but posting requests, so no command is run. -/
theorem run_contract (host : Host (StateM World)) (tree : FileTree) (world : World)
    (texts : List Text) (accepted : read texts ≠ .misuse) :
    let ended := ending host tree world texts
    (exitStatus ended.1.1 = 0 ↔
      (.version ∈ demands texts ∨ .help ∈ demands texts ∨
        ∃ options, read texts = .start options ∧ Succeeds host options tree world) ∧
      ∀ failure, ended.1.1 = .error failure → ¬Run.IsRefusal failure) ∧
    (Refuses host.merge tree host.environment texts →
      exitStatus ended.1.1 = 1 ∧ ended.1.2.tree = tree ∧ ended.2 = world) ∧
    (host.merge.KeepsSet → Rehearses host.merge tree host.environment texts →
      ∀ deeds, host.Records deeds → OnlyPosts (deeds world) (deeds ended.2)) :=
  ⟨ending_zero_iff accepted, ending_refused, fun keeps rehearses _ records =>
    ending_rehearses keeps rehearses records⟩

end

/-! ## A network that is down -/

attribute [local instance] Platform.accepting Platform.printsAll_accepting

/-- A host behind a network that is down. -/
def offlineHost (environment : Settings.Environment) : Host (StateM Unit) where
  environment
  merge := Settings.withAssignments
  transport :=
    { requested := .ok
      post := fun _ => pure (.broken "down") }
  machine :=
    { createFile := fun _ => pure "/tmp/call.json"
      run := fun _ => pure (.notStarted "down")
      removeFile := fun _ => pure () }
  schedule := {}
  now := pure ⟨2024, 5, 17, 12, 30, 0, 0⟩

theorem not_isRefusal (failure : Failure) : ¬Run.IsRefusal failure := by
  rintro ⟨text, report, refused, -⟩
  cases refused

/-- An unknown network is refused, but does not stand in the way of the version; and a dry run may
be asked for by a setting. -/
theorem run_contract_offline :
    let misled := (offlineHost [("NEAR_NETWORK", "moonnet")]).watched
    let dry := (offlineHost [("SOURCE_ACCOUNT_ID", "old.testnet"),
      ("DESTINATION_ACCOUNT_ID", "new.testnet"), ("DRY_RUN", " True ")]).watched
    let fromEnvironment : List Text := ["--env", []]
    exitStatus (ending misled ⟨[], []⟩ ((), []) ["--vers"]).1.1 = 0 ∧
      exitStatus (ending misled ⟨[], []⟩ ((), []) fromEnvironment).1.1 = 1 ∧
      (ending misled ⟨[], []⟩ ((), []) fromEnvironment).2 = ((), []) ∧
      OnlyPosts [] (ending dry ⟨[], []⟩ ((), []) fromEnvironment).2.2 := by
  intro misled dry fromEnvironment
  have accepted : read fromEnvironment ≠ .misuse := by decide
  have told := run_contract misled ⟨[], []⟩ ((), []) ["--vers"] (by decide)
  have refused := run_contract misled ⟨[], []⟩ ((), []) fromEnvironment accepted
  have rehearsed := run_contract dry ⟨[], []⟩ ((), []) fromEnvironment accepted
  have asks : Settings.AsksDryRun dry.environment := ⟨" True ", rfl, by decide⟩
  have start : read fromEnvironment = .start { settingsPath := [] } := by decide
  have refuses : Refuses misled.merge ⟨[], []⟩ misled.environment fromEnvironment :=
    ⟨_, start, rfl, rfl⟩
  exact ⟨told.1.mpr ⟨.inl (by decide), fun failure _ => not_isRefusal failure⟩,
    (refused.2.1 refuses).1, (refused.2.1 refuses).2.2,
    rehearsed.2.2 Settings.keepsSet_withAssignments (.inr (.inl asks)) Prod.snd
      (Host.watched_records _)⟩

end CommandLine

end SocialMigration
