import SocialMigration.CommandLine.Basic
import SocialMigration.Proofs.Migration.Overview

/-!
# Before and after the migration

The program in three parts: what comes before the migration, which either refuses the configuration
or hands it on; the migration itself; and the overview of its results, which always comes to its
end. So the exit status tells whether the migration has succeeded.
-/

namespace SocialMigration

namespace CommandLine

open Run (Keeps Prints)

/-! ## The three parts -/

section Parts

variable [Platform] {m : Type → Type} [Monad m]

/-- What comes before the migration: its configuration and the folder of its run, or the exit status
with which the program ends without one. -/
def prepare (host : Host m) (options : Options) : Run m (Except Nat (Config × RunFolder)) := do
  if options.version then
    Run.print ("near-social-db-migrator " ++ version)
    return .error 0
  match ← loadConfig host options.settingsPath with
  | none => return .error 1
  | some loaded =>
    let config := options.override loaded
    Run.printAll (header config)
    if config.isUsable then
      let folder := Migration.runFolder config (← Run.effect host.now)
      removeExpired host config folder
      return .ok (config, folder)
    else
      Run.printAll (complaintLines config.complaints)
      return .error 1

/-- The migration of a configuration. -/
def migration (host : Host m) (config : Config) (folder : RunFolder) : Run m Migration.Results :=
  Migration.run ⟨host.network config, host.schedule, host.now⟩ config folder

/-- What comes after the preparation: the migration and its overview, or nothing. -/
def proceed (host : Host m) : Except Nat (Config × RunFolder) → Run m Nat
  | .error status => pure status
  | .ok (config, folder) => do
    let results ← migration host config folder
    Migration.printOverview results.toJson
    return if results.success then 0 else 1

/-- The program prepares and proceeds. -/
theorem runWith_eq [LawfulMonad m] (host : Host m) (options : Options) :
    runWith host options = prepare host options >>= proceed host := by
  unfold runWith prepare
  split
  · simp only [bind_assoc, pure_bind]
    rfl
  · rw [bind_assoc]
    congr 1
    funext loaded
    cases loaded with
    | none => simp only [pure_bind, proceed]
    | some loaded =>
        simp only [bind_assoc]
        congr 1
        funext _
        split
        · simp only [migrate, bind_assoc, pure_bind, proceed, migration]
        · simp only [bind_assoc, pure_bind, proceed]

end Parts

/-! ## The preparation -/

/-- Why a program refuses to migrate: a setting has no meaning, or the configuration with what the
options ask for cannot be used. -/
def Refused (merge : Settings.Merge) (tree : FileTree) (environment : Settings.Environment)
    (options : Options) : Prop :=
  match (Settings.load merge tree environment options.settingsPath).2 with
  | .ok config => (options.override config).complaints ≠ []
  | .error (.setting fault) => fault.isConfiguration = true
  | .error _ => False

variable {World : Type} {host : Host (StateM World)} {options : Options} {tree : FileTree}
  {world : World}

theorem refused_iff_of_ok {config : Config}
    (loads : (Settings.load host.merge tree host.environment options.settingsPath).2 =
      .ok config) :
    Refused host.merge tree host.environment options ↔
      (options.override config).isUsable = false := by
  rw [Refused, loads]
  exact List.isEmpty_eq_false_iff.symm

theorem refused_iff_of_error {failure : Failure}
    (fails : (Settings.load host.merge tree host.environment options.settingsPath).2 =
      .error failure) :
    Refused host.merge tree host.environment options ↔
      ∃ fault, failure = .setting fault ∧ fault.isConfiguration = true := by
  rw [Refused, fails]
  cases failure <;> simp

/-- A session and a world after a part that has left the files and the world as they were. -/
def Untouched (session : Session) (world : World) (later : Session) (after : World) : Prop :=
  later.tree = session.tree ∧ after = world

theorem Untouched.trans {first second third : Session} {before between after : World}
    (front : Untouched first before second between)
    (back : Untouched second between third after) : Untouched first before third after :=
  ⟨back.1.trans front.1, back.2.trans front.2⟩

section

variable [Platform]

theorem untouched_of_prints {Value : Type} {part : Run (StateM World) Value}
    (prints : Prints part) (session : Session) (world : World) :
    Run.Ends part session world (fun _ later after => Untouched session world later after)
      (fun failure later after => Run.IsRefusal failure ∧ Untouched session world later after) :=
  (prints session world).mono (fun _ _ _ ended => ⟨ended.1.tree_eq, ended.2⟩)
    fun _ _ _ ended => ⟨ended.1, ended.2.1.tree_eq, ended.2.2⟩

/-- A configuration is loaded among the files of a session, and only lines are printed meanwhile. -/
theorem loadConfig_ends (session : Session) (world : World) (path : Text) :
    Run.Ends (loadConfig host path) session world
      (fun loaded later after => Untouched session world later after ∧
        match loaded with
        | some config =>
            (Settings.load host.merge session.tree host.environment path).2 = .ok config
        | none => ∃ fault, fault.isConfiguration = true ∧
            (Settings.load host.merge session.tree host.environment path).2 =
              .error (.setting fault))
      (fun failure later after => Untouched session world later after ∧
        (Run.IsRefusal failure ∨
          (Settings.load host.merge session.tree host.environment path).2 = .error failure ∧
            ∀ fault, failure = .setting fault → fault.isConfiguration = false)) := by
  simp only [loadConfig, Run.ends_bind, Run.ends_session]
  rcases Settings.load host.merge session.tree host.environment path with ⟨lines, loaded⟩
  apply (untouched_of_prints (.printAll lines) session world).mono
  · intro _ between after untouched
    cases loaded with
    | ok config => exact ⟨untouched, rfl⟩
    | error failure =>
        cases failure with
        | setting fault =>
            cases isSetting : fault.isConfiguration with
            | true =>
                simp only [isSetting, if_true, Run.ends_bind, Run.ends_pure]
                apply (untouched_of_prints (.printBlock _) between after).mono
                · exact fun _ _ _ more => ⟨untouched.trans more, fault, isSetting, rfl⟩
                · exact fun _ _ _ ended => ⟨untouched.trans ended.2, .inl ended.1⟩
            | false =>
                simp only [isSetting]
                refine ⟨untouched, .inr ⟨rfl, ?_⟩⟩
                rintro _ ⟨⟩
                exact isSetting
        | _ =>
            refine ⟨untouched, .inr ⟨rfl, ?_⟩⟩
            rintro _ ⟨⟩
  · exact fun _ _ _ ended => ⟨ended.2, .inl ended.1⟩

/-- The ways in which a preparation ends without a failure. -/
inductive Preparation (host : Host (StateM World)) (options : Options) (tree : FileTree)
    (world : World) : Except Nat (Config × RunFolder) → Session → World → Prop where
  /-- Only the version is told. -/
  | told {later : Session} {after : World} :
      options.version = true → Preparation host options tree world (.error 0) later after
  /-- The configuration is refused, and nothing has happened. -/
  | refused {later : Session} {after : World} :
      options.version = false → Refused host.merge tree host.environment options →
      Untouched { tree } world later after →
      Preparation host options tree world (.error 1) later after
  /-- The configuration is handed on. -/
  | ready {loaded : Config} {folder : RunFolder} {later : Session} {after : World} :
      options.version = false →
      (Settings.load host.merge tree host.environment options.settingsPath).2 = .ok loaded →
      (options.override loaded).isUsable →
      Preparation host options tree world (.ok (options.override loaded, folder)) later after

/-- A preparation ends in one of these ways, or fails: because the output refuses a line when
nothing has happened yet, or with a configuration that is not refused. -/
theorem prepare_ends (host : Host (StateM World)) (options : Options) (tree : FileTree)
    (world : World) :
    Run.Ends (prepare host options) { tree } world
      (fun prepared later after => Preparation host options tree world prepared later after)
      (fun failure later after => Run.IsRefusal failure ∧ Untouched { tree } world later after ∨
        options.version = false ∧ ¬ Refused host.merge tree host.environment options) := by
  unfold prepare
  cases version : options.version with
  | true =>
      simp only [if_true, Run.ends_bind, Run.ends_pure]
      apply (untouched_of_prints (.print _) { tree } world).mono
      · exact fun _ _ _ _ => .told version
      · exact fun _ _ _ => .inl
  | false =>
      simp only [Bool.false_eq_true, if_false, Run.ends_bind]
      apply (loadConfig_ends { tree } world options.settingsPath).mono
      · rintro (_ | loaded) between after ⟨untouched, loads⟩
        · rcases loads with ⟨fault, isSetting, fails⟩
          have refused := (refused_iff_of_error fails).mpr ⟨fault, rfl, isSetting⟩
          exact .refused version refused untouched
        · simp only [Run.ends_bind]
          apply (untouched_of_prints (.printAll _) between after).mono
          · intro _ headed after' more
            cases usable : (options.override loaded).isUsable with
            | true =>
                simp only [if_true, Run.ends_bind, Run.ends_effect, Run.ends_pure]
                apply Run.ends_run.mono
                · intro _ later after _
                  exact .ready version loads usable
                · intro failure _ _ _
                  refine .inr ⟨trivial, ?_⟩
                  rw [refused_iff_of_ok loads, usable]
                  simp
            | false =>
                simp only [Bool.false_eq_true, if_false, Run.ends_bind, Run.ends_pure]
                have refused := (refused_iff_of_ok loads).mpr usable
                apply (untouched_of_prints (.printAll _) headed after').mono
                · exact fun _ _ _ most => .refused version refused
                    (untouched.trans (more.trans most))
                · exact fun _ _ _ ended => .inl ⟨ended.1, untouched.trans (more.trans ended.2)⟩
          · exact fun _ _ _ ended => .inl ⟨ended.1, untouched.trans ended.2⟩
      · rintro failure later after ⟨untouched, refusal | ⟨fails, noSetting⟩⟩
        · exact .inl ⟨refusal, untouched⟩
        · refine .inr ⟨trivial, ?_⟩
          rw [refused_iff_of_error fails]
          rintro ⟨fault, rfl, isSetting⟩
          rw [noSetting fault rfl] at isSetting
          cases isSetting

/-- A refused configuration ends the preparation before anything has happened. -/
theorem prepare_refused (version : options.version = false)
    (refused : Refused host.merge tree host.environment options) :
    Run.Ends (prepare host options) { tree } world
      (fun prepared later after => prepared = .error 1 ∧ Untouched { tree } world later after)
      (fun _ later after => Untouched { tree } world later after) := by
  apply (prepare_ends host options tree world).mono
  · intro prepared later after ended
    cases ended with
    | told told =>
        rw [version] at told
        cases told
    | refused _ _ untouched => exact ⟨rfl, untouched⟩
    | ready _ loads usable =>
        rw [refused_iff_of_ok loads, usable] at refused
        cases refused
  · rintro failure later after (⟨-, untouched⟩ | ⟨-, accepted⟩)
    · exact untouched
    · exact absurd refused accepted

section Kept

variable {kept : World → Prop} (now : ∀ world, kept world → kept (host.now.run world).2)
include now

theorem keeps_removeExpired (config : Config) (folder : RunFolder) :
    Keeps kept (removeExpired host config folder) := by
  have settles (cleanUp : RunFolder.CleanUp) :
      Keeps kept (settle cleanUp : Run (StateM World) Unit) :=
    (Keeps.update _).bind fun _ => .forM _ fun _ => .record _
  unfold removeExpired
  split
  · exact .pure ()
  · apply (Keeps.effect now).bind
    intro now
    apply Keeps.session.bind
    intro session
    split
    · exact (settles _).bind fun _ => (Prints.printIf _ _).keeps
    · exact (settles _).bind fun _ => .ofExcept (.error _)

/-- The preparation does nothing but look at the clock. -/
theorem keeps_prepare (options : Options) : Keeps kept (prepare host options) := by
  unfold prepare
  split
  · exact (Prints.print _).keeps.bind fun _ => .pure _
  have loads : Keeps kept (loadConfig host options.settingsPath) := by
    intro session world before
    apply (loadConfig_ends session world options.settingsPath).mono
    · rintro _ _ _ ⟨⟨-, rfl⟩, -⟩
      exact before
    · rintro _ _ _ ⟨⟨-, rfl⟩, -⟩
      exact before
  apply loads.bind
  intro loaded
  cases loaded with
  | none => exact .pure _
  | some loaded =>
      apply (Prints.printAll _).keeps.bind
      intro _
      split
      · apply (Keeps.effect now).bind
        intro start
        exact (keeps_removeExpired now _ _).bind fun _ => .pure _
      · exact (Prints.printAll _).keeps.bind fun _ => .pure _

end Kept

end

end CommandLine

end SocialMigration
