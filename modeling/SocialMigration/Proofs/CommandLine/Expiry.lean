import SocialMigration.Proofs.CommandLine.Contract
import SocialMigration.Proofs.RunFolder.Retention

/-!
# A clean-up that breaks off

Folders can be kept for as many days as there were since the first day of the calendar, and no
longer: a clean-up that would have to count back further fails, if there is an output directory at
all. Among entries it fails where an expired folder holds directories too deep in each other, or
where the output refuses a warning. As it comes first, it takes the whole run with it.
-/

namespace SocialMigration

namespace RunFolder

variable {folder : RunFolder} {tree : FileTree} {now : Moment} {trail : Trail}

/-- There are folders to look at, and they are kept for more days than can be counted back. -/
def IsBoundless (folder : RunFolder) (tree : FileTree) (now : Moment) : Prop :=
  tree.isDirectory folder.base = true ∧ now.dayNumber ≤ folder.retentionDays

/-- The instant before which a folder is old. -/
def oldest (folder : RunFolder) (now : Moment) : Int :=
  now.instant - folder.retentionDays * Calendar.microsecondsPerDay

/-- Folders are kept for as many days as can be counted back, and a directory is looked at. -/
structure Inspects (folder : RunFolder) (tree : FileTree) (now : Moment) (trail : Trail) :
    Prop where
  found : tree.found? folder.base = some (trail, .directory)
  kept : 0 < folder.retentionDays
  few : folder.retentionDays < now.dayNumber

section

variable [Platform] {verbose : Bool} {failure : Failure} {interrupted : Interrupted}

/-- What makes a clean-up break off: it has to count back too far, or there is an entry that stops
it. -/
inductive Breaks (folder : RunFolder) (verbose : Bool) (tree : FileTree) (now : Moment) :
    Failure → Prop where
  | boundless (fault : RangeFault) (boundless : folder.IsBoundless tree now) :
      Breaks folder verbose tree now (.range fault)
  | entry {trail : Trail} {name : Text} {failure : Failure}
      (inspects : folder.Inspects tree now trail) (listed : name ∈ tree.namesBelow trail)
      (obstructs : Obstructs verbose tree folder.base trail (folder.oldest now) name failure) :
      Breaks folder verbose tree now failure

/-- The path of the output directory goes on leading there when expired folders are gone, and one of
these holds directories too deep in each other to be removed. -/
def HasPit (folder : RunFolder) (tree : FileTree) (now : Moment) : Prop :=
  ∃ trail name, folder.Inspects tree now trail ∧
    Firm tree folder.base trail (folder.oldest now) ∧
    Due tree folder.base trail (folder.oldest now) name ∧
    tree.isTooDeepBelow (trail ++ [name]) Platform.folderRoom = true

theorem Inspects.cleanUp_eq (inspects : folder.Inspects tree now trail) (valid : now.IsValid) :
    folder.cleanUp verbose tree now = (tree.namesBelow trail).foldlM
      (CleanUp.visit verbose folder.base (folder.oldest now)) ⟨tree, 0, []⟩ :=
  RunFolder.cleanUp_eq inspects.found inspects.kept valid inspects.few

/-- There is nothing else for which a clean-up breaks off. -/
theorem breaks_of_cleanUp (valid : now.IsValid) (sound : tree.IsSound)
    (broke : folder.cleanUp verbose tree now = .error interrupted) :
    folder.Breaks verbose tree now interrupted.failure := by
  by_cases directory : ∃ trail, tree.found? folder.base = some (trail, .directory)
  · rcases directory with ⟨trail, found⟩
    by_cases kept : folder.retentionDays ≤ 0
    · rw [RunFolder.cleanUp, found] at broke
      simp only [if_pos kept] at broke
      cases broke
    by_cases many : now.dayNumber ≤ folder.retentionDays
    · rcases cutoff_of_le many with ⟨fault, refused⟩
      rw [RunFolder.cleanUp, found] at broke
      simp only [if_neg kept, refused] at broke
      cases broke
      exact .boundless fault ⟨FileTree.isDirectory_iff.mpr ⟨trail, found⟩, many⟩
    · have inspects : folder.Inspects tree now trail :=
        ⟨found, Int.not_le.mp kept, Int.not_le.mp many⟩
      rw [inspects.cleanUp_eq valid] at broke
      rcases foldlM_visit_namesBelow_eq_error sound found broke with ⟨name, listed, obstructs⟩
      exact .entry inspects listed obstructs
  · rw [cleanUp_of_not_found (not_exists.mp directory)] at broke
    cases broke

theorem IsBoundless.cleanUp_eq (boundless : folder.IsBoundless tree now) (valid : now.IsValid) :
    ∃ fault, folder.cleanUp verbose tree now = .error ⟨⟨tree, 0, []⟩, .range fault⟩ := by
  rcases boundless with ⟨directory, many⟩
  rcases FileTree.isDirectory_iff.mp directory with ⟨trail, found⟩
  rcases cutoff_of_le many with ⟨fault, refused⟩
  have some : 0 < now.dayNumber := valid.dayNumber_pos
  refine ⟨fault, ?_⟩
  rw [cleanUp, found]
  simp only
  rw [if_neg (by omega), refused]

/-- All that is due would be gone after a clean-up that goes through, but what is too deep is not
removed. -/
theorem HasPit.cleanUp_eq (pit : folder.HasPit tree now) (valid : now.IsValid)
    (sound : tree.IsSound) :
    ∃ interrupted, folder.cleanUp verbose tree now = .error interrupted := by
  rcases pit with ⟨trail, name, inspects, firm, due, deep⟩
  rw [inspects.cleanUp_eq valid]
  cases ended : (tree.namesBelow trail).foldlM
    (CleanUp.visit verbose folder.base (folder.oldest now)) ⟨tree, 0, []⟩ with
  | error interrupted => exact ⟨interrupted, rfl⟩
  | ok after =>
      rcases foldlM_visit_namesBelow sound inspects.found ended with
        ⟨gone, -, -, shallow, taken, -, -⟩
      exact nomatch (shallow name (taken firm name due)).symm.trans deep

/-- Folders of which none is kept are not looked at. -/
theorem kept_of_cleanUp (broke : folder.cleanUp verbose tree now = .error interrupted) :
    ¬folder.retentionDays ≤ 0 := by
  intro none
  rw [RunFolder.cleanUp] at broke
  split at broke
  · rw [if_pos none] at broke
    cases broke
  · cases broke

end

end RunFolder

namespace CommandLine

variable {World : Type}

theorem settle_ends (cleanUp : RunFolder.CleanUp) (session : Session) (world : World) :
    Run.Ends (settle cleanUp) session world
      (fun _ later after => { session with tree := cleanUp.tree }.Logs [] later ∧ after = world)
      (fun _ _ _ => False) := by
  simp only [settle, Run.ends_bind, Run.ends_update, Run.ends_recordLines]
  exact ⟨Session.logs_printed _ _, trivial⟩

section

variable [Platform]

/-- A clean-up returns what it has done unless it has to count back too far, or comes upon an
expired folder that is too deep, or on a warning that the output refuses. If it has to count back
too far it does fail, and so it does for an expired folder that is too deep, if the path leads there
to the end. When it fails the run is over before it has asked anything or written more than the
clean-up has. -/
theorem cleanUp_breaks_off (host : Host (StateM World)) (config : Config) (session : Session)
    (world : World) (valid : (host.now.run (host.now.run world).2).1.IsValid)
    (sound : session.tree.IsSound) :
    let folder := Migration.runFolder config (host.now.run world).1
    let now := (host.now.run (host.now.run world).2).1
    (∀ interrupted, folder.cleanUp config.debug session.tree now = .error interrupted →
      folder.Breaks config.debug session.tree now interrupted.failure ∧
      Run.Ends (migrate host config) session world (fun _ _ _ => False)
        (fun failure later after => failure = interrupted.failure ∧
          { session with tree := interrupted.done.tree }.Logs [] later ∧
          after = (host.now.run (host.now.run world).2).2)) ∧
    (folder.IsBoundless session.tree now → ∃ fault,
      folder.cleanUp config.debug session.tree now =
        .error ⟨⟨session.tree, 0, []⟩, .range fault⟩) ∧
    (folder.HasPit session.tree now → ∃ interrupted,
      folder.cleanUp config.debug session.tree now = .error interrupted) := by
  intro folder now
  refine ⟨fun interrupted broke => ⟨RunFolder.breaks_of_cleanUp valid sound broke, ?_⟩,
    fun boundless => boundless.cleanUp_eq valid, fun pit => pit.cleanUp_eq valid sound⟩
  simp only [migrate, removeExpired, Run.ends_bind, Run.ends_effect]
  rw [if_neg (RunFolder.kept_of_cleanUp broke)]
  simp only [Run.ends_bind, Run.ends_effect, Run.ends_session]
  rw [broke]
  simp only [Run.ends_bind]
  apply (settle_ends interrupted.done session _).mono
  · rintro _ later after ⟨logs, rfl⟩
    exact ⟨rfl, logs, rfl⟩
  · exact fun _ _ _ => False.elim

end

attribute [local instance] Platform.accepting

/-- A configuration by which folders are kept for longer than there have been days. -/
def timeless : Config := { Migration.pairwise with retentionDays := 800000 }

/-- With this configuration a run is over before it begins. -/
theorem cleanUp_breaks_off_timeless :
    let host := offlineHost []
    let session : Session := { tree := RunFolder.someFolders }
    (host.now.run ()).1.IsValid ∧ session.tree.IsSound ∧
      (Migration.runFolder timeless (host.now.run ()).1).IsBoundless session.tree
        (host.now.run ()).1 ∧
      Run.Ends (migrate host timeless) session () (fun _ _ _ => False)
        (fun failure later _ => (∃ fault, failure = .range fault) ∧ session.Logs [] later) := by
  intro host session
  have valid : (host.now.run ()).1.IsValid :=
    ⟨⟨by decide, by decide, by decide, by decide, by decide, by decide⟩, by decide, by decide,
      by decide, by decide⟩
  have sound : session.tree.IsSound := ⟨by decide, by decide⟩
  have boundless : (Migration.runFolder timeless (host.now.run ()).1).IsBoundless session.tree
      (host.now.run ()).1 :=
    ⟨by cbv, by decide⟩
  have stops := cleanUp_breaks_off host timeless session () valid sound
  rcases stops.2.1 boundless with ⟨fault, broke⟩
  refine ⟨valid, sound, boundless, (stops.1 _ broke).2.mono (fun _ _ _ => id) ?_⟩
  rintro failure later _ ⟨rfl, logs, -⟩
  exact ⟨⟨fault, rfl⟩, logs⟩

/-- This configuration is usable, and its clean-up fails. -/
theorem cleanUp_timeless :
    timeless.isUsable = true ∧
      ∃ interrupted, (Migration.runFolder timeless RunFolder.autumnDay).cleanUp timeless.debug
        RunFolder.someFolders RunFolder.autumnDay = .error interrupted ∧
        interrupted.failure.reportName = Text.ofString "OverflowError" ∧
        interrupted.failure.message = Text.ofString "date value out of range" :=
  ⟨by decide, ⟨⟨RunFolder.someFolders, 0, []⟩, .range .dateOutOfRange⟩, by cbv, rfl, rfl⟩

end CommandLine

end SocialMigration
