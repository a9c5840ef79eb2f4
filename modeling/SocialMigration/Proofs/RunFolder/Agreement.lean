import SocialMigration.Proofs.RunFolder.Making
import SocialMigration.Proofs.RunFolder.Retention

/-!
# How long a run's folder is kept

A clean-up reads the name of every folder that a run has got as the minute in which the run started,
so it removes the folder when that minute is before the cutoff and never sooner. It does so as long
as the path of the output directory leads to it; a path that leads nowhere, such as the empty one,
keeps folders for ever.
-/

namespace SocialMigration

namespace RunFolder

open FileTree (Holds joinPath)

/-- The instant before which runs must have started for their folders to be removed. -/
def cutoffInstant (cleaner : RunFolder) (now : Moment) : Int :=
  now.instant - cleaner.retentionDays * Calendar.microsecondsPerDay

/-- A run cleans up the output directory of another, which still holds the folder of that. -/
structure Revisits (cleaner folder : RunFolder) (later : FileTree) (now : Moment)
    (trail : Trail) : Prop where
  base : cleaner.base = folder.base
  kept : 0 < cleaner.retentionDays
  few : cleaner.retentionDays < now.dayNumber
  valid : now.IsValid
  sound : later.IsSound
  found : later.found? folder.base = some (trail, .directory)
  stands : later.entry? (trail ++ [folderName folder.start folder.name]) = some .directory

/-- What a clean-up has done about the folder of a run: it is there still or it is gone, and if it
is gone its minute was before the cutoff. It is gone then if the path of the output directory leads
there whichever of the folders to be removed are gone already. No folder is gone that a run got so
few days ago as folders are kept, less one minute. -/
structure Treats (cleaner folder : RunFolder) (later : FileTree) (now : Moment) (trail : Trail)
    (swept : CleanUp) : Prop where
  either : swept.tree.entry? (trail ++ [folderName folder.start folder.name]) = none ∨
    swept.tree.entry? (trail ++ [folderName folder.start folder.name]) = some .directory
  expired : swept.tree.entry? (trail ++ [folderName folder.start folder.name]) = none →
    folder.start.toMinute.instant < cutoffInstant cleaner now
  removed : Firm later folder.base trail (cutoffInstant cleaner now) →
    folder.start.toMinute.instant < cutoffInstant cleaner now →
    swept.tree.entry? (trail ++ [folderName folder.start folder.name]) = none
  kept : (now.instant : Int) - folder.start.instant ≤
      cleaner.retentionDays * Calendar.microsecondsPerDay - 60 * 1000000 →
    swept.tree.entry? (trail ++ [folderName folder.start folder.name]) = some .directory

variable {cleaner folder made : RunFolder} {tree after later : FileTree} {trail there : Trail}
  {now : Moment} {base name path : Text} {left : Nat} {limit : Int} {gone : List Text}
  {verbose : Bool}

/-- A path that does not lead through what its directory holds goes on leading there. -/
theorem firm_of_emptied (found : (later.emptied trail).found? base = some (trail, .directory)) :
    Firm later base trail limit := by
  intro gone _
  rw [← emptied_without later trail gone] at found
  exact FileTree.enters_of_found? (FileTree.found?_of_emptied found)

/-- A folder that was made is due just if its minute is before the limit. -/
theorem Revisits.due_iff (revisits : Revisits cleaner folder later now trail)
    (short : FileTree.isTooLong folder.path = false) (valid : folder.start.IsValid)
    (four : 1000 ≤ folder.start.year) :
    Due later folder.base trail limit (folderName folder.start folder.name) ↔
      (folder.start.toMinute.instant : Int) < limit := by
  rw [← (names_folderName valid four folder.name).isOld_iff]
  exact ⟨Due.old, fun old => ⟨revisits.stands, old, short⟩⟩

section

variable [Platform]

theorem Revisits.treats (revisits : Revisits cleaner folder later now trail)
    (unhindered : Unhindered verbose later folder.base trail (cutoffInstant cleaner now))
    (short : FileTree.isTooLong folder.path = false) (valid : folder.start.IsValid)
    (four : 1000 ≤ folder.start.year) :
    ∃ swept, cleaner.cleanUp verbose later now = .ok swept ∧
      Treats cleaner folder later now trail swept := by
  have found : later.found? cleaner.base = some (trail, .directory) := by
    rw [revisits.base, revisits.found]
  rcases unhindered.foldlM_visit revisits.sound revisits.found with ⟨swept, ended⟩
  rcases foldlM_visit_namesBelow revisits.sound revisits.found ended with
    ⟨gone, -, due, -, taken, pruned, -⟩
  rw [← revisits.base] at ended
  refine ⟨swept, (cleanUp_eq found revisits.kept revisits.valid revisits.few).trans ended, ?_⟩
  have due_iff : Due later folder.base trail (cutoffInstant cleaner now)
      (folderName folder.start folder.name) ↔
        (folder.start.toMinute.instant : Int) < cutoffInstant cleaner now :=
    revisits.due_iff short valid four
  have stands : swept.tree.entry? (trail ++ [folderName folder.start folder.name]) =
      if folderName folder.start folder.name ∈ gone then none else some .directory := by
    rw [pruned, entry?_without_own, revisits.stands]
  have expired (inside : folderName folder.start folder.name ∈ gone) :
      folder.start.toMinute.instant < cutoffInstant cleaner now := due_iff.mp (due _ inside)
  by_cases inside : folderName folder.start folder.name ∈ gone
  · rw [if_pos inside] at stands
    refine ⟨.inl stands, fun _ => expired inside, fun _ _ => stands, fun soon => ?_⟩
    have passed := valid.instant_toMinute.2
    have early := expired inside
    rw [cutoffInstant] at early
    omega
  · rw [if_neg inside] at stands
    refine ⟨.inr stands, fun absent => (nomatch stands.symm.trans absent), fun firm early => ?_,
      fun _ => stands⟩
    exact absurd (taken firm _ (due_iff.mpr early)) inside

/-- A folder that has been made is in the output directory, and its name is read as the minute in
which its run started, so that a clean-up that finds it there and that no entry stops removes it
when that minute is before the cutoff. A clean-up removes nothing if the path of the output
directory leads to none. -/
theorem cleanUp_reads_create (created : folder.create tree = (made, after, .ok path))
    (valid : folder.start.IsValid) (four : 1000 ≤ folder.start.year) :
    (path = joinPath folder.base (folderName folder.start folder.name) ∧
        ∃ left trail, Holds after folder.base (folderName folder.start folder.name) left trail) ∧
      (∃ date time, groups? (folderName folder.start folder.name) = some (date, time) ∧
        readMoment date time = .ok folder.start.toMinute) ∧
      (∀ (cleaner : RunFolder) (verbose : Bool) (later : FileTree) (now : Moment) (trail : Trail),
        Revisits cleaner folder later now trail →
        Unhindered verbose later folder.base trail (cutoffInstant cleaner now) →
        ∃ swept, cleaner.cleanUp verbose later now = .ok swept ∧
          Treats cleaner folder later now trail swept) ∧
      ∀ (cleaner : RunFolder) (verbose : Bool) (later : FileTree) (now : Moment),
        cleaner.base = folder.base →
        (∀ trail, later.found? folder.base ≠ some (trail, .directory)) →
        cleaner.cleanUp verbose later now = .ok ⟨later, 0, []⟩ := by
  rcases create_eq_ok created with ⟨-, samePath, grown, -, ensured⟩
  rcases FileTree.holds_of_ensureDirectory (isPart_folderName _ _) ensured with
    ⟨left, there, holds⟩
  refine ⟨⟨samePath, left, there, holds⟩, (names_folderName valid four folder.name).read, ?_, ?_⟩
  · intro cleaner verbose later now trail revisits unhindered
    exact revisits.treats unhindered holds.short valid four
  · intro cleaner verbose later now same none
    exact cleanUp_of_not_found (same ▸ none)

end

/-! ## An autumn day -/

/-- The name of the folder of a run on an autumn day. -/
def autumnName : Text := "20261018_1430_run"

/-- What is there after such a run below a directory that was not there. -/
def autumnFolder : FileTree where
  entries := [(outputTrail, .directory), (outputTrail ++ [autumnName], .directory)]
  working := []

/-- Thirty days after the minute of the run. -/
def monthLater : Moment := ⟨2026, 11, 17, 14, 30, 0, 1⟩

theorem folderName_autumn : folderName autumnDay "run" = autumnName := by decide +kernel

theorem path_monthly (base : Text) : (monthly base).path = joinPath base autumnName := by
  rw [path, monthly, folderName_autumn]

theorem revisits_monthly :
    Revisits (monthly "output") (monthly "output") autumnFolder monthLater outputTrail where
  base := rfl
  kept := (by decide : (0 : Int) < 30)
  few := (by decide : (30 : Int) < monthLater.dayNumber)
  valid := by decide
  sound := ⟨by decide, by decide⟩
  found := by cbv
  stands := by
    rw [monthly, folderName_autumn]
    decide

attribute [local instance] Platform.accepting

theorem unhindered_monthly (limit : Int) :
    Unhindered false autumnFolder "output" outputTrail limit :=
  unhindered_of_shallow (by decide)

/-- The folder is removed as soon as its minute is more than thirty days ago. -/
theorem cleanUp_reads_create_monthly :
    (monthly "output").create ⟨[], []⟩ =
        ({ monthly "output" with current := some (monthly "output").path }, autumnFolder,
          .ok (monthly "output").path) ∧
      ∃ swept, (monthly "output").cleanUp false autumnFolder monthLater = .ok swept ∧
        swept.tree.entry? (outputTrail ++ [autumnName]) = none := by
  have created : (monthly "output").create ⟨[], []⟩ =
      ({ monthly "output" with current := some (monthly "output").path }, autumnFolder,
        .ok (monthly "output").path) := by
    rw [create, path_monthly]
    cbv
  refine ⟨created, ?_⟩
  have valid : (monthly "output").start.IsValid := by decide
  rcases (cleanUp_reads_create created valid (by decide)).2.2.1 _ false _ _ _ revisits_monthly
    (unhindered_monthly _) with ⟨swept, ended, treats⟩
  have early : (autumnDay.toMinute.instant : Int) <
      cutoffInstant (monthly "output") monthLater := by
    decide
  have firm : Firm autumnFolder "output" outputTrail
      (cutoffInstant (monthly "output") monthLater) :=
    firm_of_emptied (by cbv)
  exact ⟨swept, ended, treats.removed firm early⟩

/-- Below the empty path a folder is made in the working directory, and never removed. -/
theorem cleanUp_keeps_unnamed :
    (monthly []).create ⟨[], []⟩ =
        ({ monthly [] with current := some autumnName }, ⟨[([autumnName], .directory)], []⟩,
          .ok autumnName) ∧
      (autumnDay.toMinute.instant : Int) < cutoffInstant (monthly []) monthLater ∧
      (monthly []).cleanUp false ⟨[([autumnName], .directory)], []⟩ monthLater =
        .ok ⟨⟨[([autumnName], .directory)], []⟩, 0, []⟩ := by
  refine ⟨?_, by decide, by cbv⟩
  rw [create, path_monthly]
  cbv

end RunFolder

end SocialMigration
