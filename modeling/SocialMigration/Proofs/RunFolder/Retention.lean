import SocialMigration.Proofs.RunFolder.CleanUp
import SocialMigration.Proofs.Text.Utf8

/-!
# What retention removes

A clean-up removes the entries that are expired: directories with the name of a minute before the
cutoff. Removing one changes nothing about the others, so what is gone in the end is what was
expired in the beginning, in whatever order the entries are listed.
-/

namespace SocialMigration

namespace RunFolder

open FileTree (IsName joinPath isTooLong)

/-- An entry below a trail that is removed: itself a directory, with the name of a minute that lies
before the cutoff. -/
structure Expired (tree : FileTree) (trail : Trail) (cutoff : Moment) (name : Text) : Prop where
  directory : tree.entry? (trail ++ [name]) = some .directory
  before : ∃ moment, Names name moment ∧ moment.parts < cutoff.parts

variable {folder : RunFolder} {tree other : FileTree} {base name : Text} {trail : Trail}
  {now cutoff : Moment} {limit : Int} {after : CleanUp}

/-! ## What is expired -/

/-- What is due at a cutoff is what is expired then, among names of which a minute is read exactly
if they start with it. -/
theorem expired_of_due (plain : HasAsciiDigits name) (valid : cutoff.IsValid)
    (due : Due tree base trail cutoff.instant name) : Expired tree trail cutoff name := by
  refine ⟨due.directory, ?_⟩
  rcases due.old with ⟨date, time, moment, shaped, read, early⟩
  have names : Names name moment := (names_iff plain).mpr ⟨date, time, shaped, read⟩
  exact ⟨moment, names, (names.valid.instant_lt_iff valid).mp (by exact_mod_cast early)⟩

theorem Expired.due (expired : Expired tree trail cutoff name) (valid : cutoff.IsValid)
    (short : isTooLong (joinPath base name) = false) :
    Due tree base trail cutoff.instant name := by
  rcases expired.before with ⟨moment, names, before⟩
  have early := (names.valid.instant_lt_iff valid).mpr before
  exact ⟨expired.directory, names.isOld_iff.mpr (by exact_mod_cast early), short⟩

/-- A path that leads to a directory, whichever of its expired entries are gone. -/
def Steady (tree : FileTree) (base : Text) (trail : Trail) (cutoff : Moment) : Prop :=
  ∀ gone, (∀ name ∈ gone, Expired tree trail cutoff name) →
    (without tree trail gone).found? base = some (trail, .directory)

theorem Steady.found? (steady : Steady tree base trail cutoff) :
    tree.found? base = some (trail, .directory) :=
  steady [] (by simp)

/-- A path that does not lead through what its directory holds. -/
theorem steady_of_emptied (found : (tree.emptied trail).found? base = some (trail, .directory)) :
    Steady tree base trail cutoff := by
  intro gone _
  exact FileTree.found?_of_emptied (emptied_without tree trail gone ▸ found)

/-! ## Before and after a clean-up -/

/-- A clean-up that has something to do: folders are kept for some days, the cutoff is as many days
before now, and the output directory is there, among entries whose names have no decimal digits but
those of ASCII. -/
structure Pending (folder : RunFolder) (tree : FileTree) (now : Moment) (trail : Trail)
    (cutoff : Moment) : Prop where
  kept : 0 < folder.retentionDays
  valid : now.IsValid
  cutoff_valid : cutoff.IsValid
  date : cutoff.dayNumber + folder.retentionDays = now.dayNumber
  time : cutoff.timeOfDay = now.timeOfDay
  sound : tree.IsSound
  found : tree.found? folder.base = some (trail, .directory)
  plain : ∀ name ∈ tree.namesBelow trail, HasAsciiDigits name

/-- What a clean-up has done to a tree when it is over: the expired folders are gone with all they
held and are counted, and all else is as it was. -/
structure Swept (tree : FileTree) (trail : Trail) (cutoff : Moment) (after : CleanUp) : Prop where
  counted : ∃ gone : List Text, gone.Nodup ∧
    (∀ name, name ∈ gone ↔ Expired tree trail cutoff name) ∧ after.removed = gone.length
  gone : ∀ name below, Expired tree trail cutoff name →
    after.tree.entry? (trail ++ name :: below) = none
  kept : ∀ place, (∀ name below, Expired tree trail cutoff name → place ≠ trail ++ name :: below) →
    after.tree.entry? place = tree.entry? place
  working : after.tree.working = tree.working

theorem Pending.instant_eq (pending : Pending folder tree now trail cutoff) :
    (cutoff.instant : Int) =
      now.instant - folder.retentionDays * Calendar.microsecondsPerDay := by
  rw [Moment.instant_eq, Moment.instant_eq, pending.time]
  push_cast
  rw [← pending.date, Int.add_mul]
  omega

/-! ## Listing orders -/

theorem expired_congr (alike : ∀ place, other.entry? place = tree.entry? place) :
    Expired other trail cutoff name ↔ Expired tree trail cutoff name :=
  ⟨fun expired => ⟨(alike _).symm.trans expired.directory, expired.before⟩,
    fun expired => ⟨(alike _).trans expired.directory, expired.before⟩⟩

theorem Steady.congr (steady : Steady tree base trail cutoff)
    (alike : ∀ place, other.entry? place = tree.entry? place)
    (working : other.working = tree.working) :
    Steady other base trail cutoff := by
  intro gone all
  have found := steady gone fun name listed => (expired_congr alike).mp (all name listed)
  have alike' : ∀ place, FileTree.entry? (RunFolder.without other trail gone) place =
      FileTree.entry? (RunFolder.without tree trail gone) place := by
    intro place
    rw [entry?_without, entry?_without, alike]
  refine FileTree.found?_mono found (by rw [without_working, without_working, working])
    (fun place entry inside => (alike' place).trans inside) ?_
  rw [alike']
  exact FileTree.directory_of_found? found

/-- What a clean-up has done to two trees with the same entries is the same. -/
theorem Swept.alike {after' : CleanUp} (alike : ∀ place, other.entry? place = tree.entry? place)
    (swept : Swept tree trail cutoff after) (swept' : Swept other trail cutoff after') :
    after'.removed = after.removed ∧
      ∀ place, after'.tree.entry? place = after.tree.entry? place := by
  have same : ∀ name, Expired other trail cutoff name ↔ Expired tree trail cutoff name :=
    fun name => expired_congr alike
  constructor
  · rcases swept.counted with ⟨gone, distinct, mem_gone, counted⟩
    rcases swept'.counted with ⟨gone', distinct', mem_gone', counted'⟩
    have permuted : gone'.Perm gone := by
      rw [List.perm_ext_iff_of_nodup distinct' distinct]
      intro name
      rw [mem_gone', mem_gone, same]
    rw [counted, counted', permuted.length_eq]
  · intro place
    by_cases under : ∃ name below, Expired tree trail cutoff name ∧ place = trail ++ name :: below
    · rcases under with ⟨name, below, expired, rfl⟩
      rw [swept.gone name below expired, swept'.gone name below ((same name).mpr expired)]
    · have apart : ∀ name below, Expired tree trail cutoff name → place ≠ trail ++ name :: below :=
        fun name below expired there => under ⟨name, below, expired, there⟩
      have apart' : ∀ name below, Expired other trail cutoff name →
          place ≠ trail ++ name :: below :=
        fun name below expired => apart name below ((same name).mp expired)
      rw [swept.kept place apart, swept'.kept place apart', alike]

/-! ## The whole clean-up -/

section

variable [Platform] {verbose : Bool}

/-- A clean-up that can do what it has to: the path of the output directory does not lead through
one of its expired entries, nor is the path of one of these too long, and no entry stops it, so that
removals succeed and warnings, if they are wanted, can be printed. -/
structure Feasible (folder : RunFolder) (verbose : Bool) (tree : FileTree) (now : Moment)
    (trail : Trail) (cutoff : Moment) : Prop extends Pending folder tree now trail cutoff where
  unhindered : Unhindered verbose tree folder.base trail cutoff.instant
  steady : Steady tree folder.base trail cutoff
  short : ∀ name, Expired tree trail cutoff name → isTooLong (joinPath folder.base name) = false

/-- A clean-up that has something to do goes through all entries. -/
theorem Pending.cleanUp_eq (pending : Pending folder tree now trail cutoff) :
    folder.cleanUp verbose tree now = (tree.namesBelow trail).foldlM
      (CleanUp.visit verbose folder.base cutoff.instant) ⟨tree, 0, []⟩ := by
  have early : 0 < cutoff.dayNumber := pending.cutoff_valid.dayNumber_pos
  have date := pending.date
  rw [RunFolder.cleanUp_eq pending.found pending.kept pending.valid (by omega), pending.instant_eq]

/-- A clean-up that can do what it has to ends, and what was expired is gone. -/
theorem Feasible.swept (feasible : Feasible folder verbose tree now trail cutoff) :
    ∃ after, folder.cleanUp verbose tree now = .ok after ∧ Swept tree trail cutoff after := by
  have expired_of_due' : ∀ name, Due tree folder.base trail cutoff.instant name →
      Expired tree trail cutoff name := fun name due =>
    have listed := (FileTree.mem_namesBelow feasible.sound).mpr ⟨_, due.directory⟩
    expired_of_due (feasible.plain name listed) feasible.cutoff_valid due
  have firm : Firm tree folder.base trail cutoff.instant := fun gone due =>
    FileTree.enters_of_found? (feasible.steady gone fun name listed =>
      expired_of_due' name (due name listed))
  rcases feasible.unhindered.foldlM_visit feasible.sound feasible.found with ⟨after, ended⟩
  rcases foldlM_visit_namesBelow feasible.sound feasible.found ended with
    ⟨gone, distinct, due, -, taken, pruned, removed⟩
  have mem_gone : ∀ name, name ∈ gone ↔ Expired tree trail cutoff name := fun name =>
    ⟨fun listed => expired_of_due' name (due name listed), fun expired =>
      taken firm name (expired.due feasible.cutoff_valid (feasible.short name expired))⟩
  refine ⟨after, feasible.cleanUp_eq.trans ended, ⟨gone, distinct, mem_gone, removed⟩, ?_, ?_, ?_⟩
  · intro name below expired
    rw [pruned, entry?_without, if_pos]
    exact ⟨name, (mem_gone name).mpr expired, below, by simp⟩
  · intro place apart
    rw [pruned, entry?_without, if_neg]
    rintro ⟨name, listed, below, under⟩
    exact apart name below ((mem_gone name).mp listed) (by simp [← under])
  · rw [pruned, without_working]

/-- What stops a clean-up of entries in another order stops it in this one. -/
theorem Obstructs.of_perm {failure : Failure} (sound : tree.IsSound)
    (permuted : other.entries.Perm tree.entries)
    (obstructs : Obstructs verbose other base trail limit name failure) :
    Obstructs verbose tree base trail limit name failure := by
  have alike := FileTree.entry?_eq_of_perm sound permuted
  have due_of_due (due : Due other base trail limit name) : Due tree base trail limit name :=
    ⟨(alike _).symm.trans due.directory, due.old, due.short⟩
  cases obstructs with
  | tooDeep due deep =>
      refine .tooDeep (due_of_due due) ?_
      rw [FileTree.isTooDeepBelow, List.any_eq_true] at deep ⊢
      rcases deep with ⟨entry, inside, below⟩
      exact ⟨entry, permuted.mem_iff.mp inside, below⟩
  | refused concern refused =>
      refine .refused ?_ refused
      cases concern with
      | unread shaped unread => exact .unread shaped unread
      | linked link old => exact .linked ((alike _).symm.trans link) old
      | untold due refused => exact .untold (due_of_due due) refused

theorem Feasible.of_perm (feasible : Feasible folder verbose tree now trail cutoff)
    (permuted : other.entries.Perm tree.entries) (working : other.working = tree.working) :
    Feasible folder verbose other now trail cutoff := by
  have sound : other.IsSound :=
    ⟨(permuted.map Prod.fst).nodup_iff.mpr feasible.sound.distinct,
      fun entry inside => feasible.sound.named entry (permuted.mem_iff.mp inside)⟩
  have listed : ∀ name ∈ other.namesBelow trail, name ∈ tree.namesBelow trail := by
    intro name
    rw [FileTree.mem_namesBelow sound, FileTree.mem_namesBelow feasible.sound,
      FileTree.entry?_eq_of_perm feasible.sound permuted]
    exact id
  have alike := FileTree.entry?_eq_of_perm feasible.sound permuted
  exact
    { feasible with
      sound
      found := (feasible.steady.congr alike working).found?
      plain := fun name inside => feasible.plain name (listed name inside)
      unhindered := fun name inside failure obstructs =>
        feasible.unhindered name (listed name inside) failure
          (obstructs.of_perm feasible.sound permuted)
      steady := feasible.steady.congr alike working
      short := fun name expired => feasible.short name ((expired_congr alike).mp expired) }

/-- Without a positive number of days nothing is removed. Otherwise, and if there is something to
do, exactly the expired folders are removed and counted, whatever the order in which entries are
listed. -/
theorem cleanUp_removes_expired (folder : RunFolder) (verbose : Bool) (tree : FileTree)
    (now : Moment) :
    (folder.retentionDays ≤ 0 → folder.cleanUp verbose tree now = .ok ⟨tree, 0, []⟩) ∧
      ∀ trail cutoff, Feasible folder verbose tree now trail cutoff →
        ∃ after, folder.cleanUp verbose tree now = .ok after ∧ Swept tree trail cutoff after ∧
          ∀ other : FileTree, other.entries.Perm tree.entries → other.working = tree.working →
            ∃ after', folder.cleanUp verbose other now = .ok after' ∧
              after'.removed = after.removed ∧
              ∀ place, after'.tree.entry? place = after.tree.entry? place := by
  constructor
  · intro none
    rw [RunFolder.cleanUp]
    split
    · rw [if_pos none]
    · rfl
  · intro trail cutoff feasible
    rcases feasible.swept with ⟨after, ended, swept⟩
    refine ⟨after, ended, swept, ?_⟩
    intro other permuted working
    rcases (feasible.of_perm permuted working).swept with ⟨after', ended', swept'⟩
    exact ⟨after', ended', swept.alike (FileTree.entry?_eq_of_perm feasible.sound permuted) swept'⟩

end

/-! ## Some folders -/

/-- An output directory with three run folders, of which one has a file in it, a folder from no day
of the calendar, and a file with the name of a run folder. -/
def someFolders : FileTree where
  entries :=
    [(["output"], .directory), (["output", "20231224_1800_first"], .directory),
      (["output", "20240101_0900_second"], .directory),
      (["output", "20240101_0900_second", "results"], .file "1"),
      (["output", "20261001_0900_third"], .directory),
      (["output", "20240230_0900_never"], .directory),
      (["output", "20240101_0900_file"], .file "2")]
  working := []

/-- Where that directory is. -/
def outputTrail : Trail := ["output"]

/-- A day on which folders are cleaned up. -/
def autumnDay : Moment := ⟨2026, 10, 18, 14, 30, 59, 0⟩

/-- The same time of day thirty days before. -/
def lastMonth : Moment := ⟨2026, 9, 18, 14, 30, 59, 0⟩

/-- A run on this day that reports below a path where folders are kept for thirty days. -/
def monthly (base : Text) : RunFolder :=
  { base, name := "run", retentionDays := 30, start := autumnDay }

theorem pending_monthly {base : Text}
    (found : someFolders.found? base = some (outputTrail, .directory)) :
    Pending (monthly base) someFolders autumnDay outputTrail lastMonth where
  kept := (by decide : (0 : Int) < 30)
  valid := by decide
  cutoff_valid := by decide
  date := (by decide : (lastMonth.dayNumber : Int) + 30 = autumnDay.dayNumber)
  time := by decide
  sound := ⟨by decide, by decide⟩
  found
  plain := by decide

theorem expired_second : Expired someFolders outputTrail lastMonth "20240101_0900_second" := by
  refine ⟨by decide, ⟨2024, 1, 1, 9, 0, 0, 0⟩,
    ⟨?_, rfl, rfl, "second", by decide, .inl (by decide)⟩, by decide⟩
  decide

attribute [local instance] Platform.accepting

theorem feasible_monthly :
    Feasible (monthly "output") false someFolders autumnDay outputTrail lastMonth := by
  have pending : Pending (monthly "output") someFolders autumnDay outputTrail lastMonth :=
    pending_monthly (by cbv)
  refine ⟨pending, unhindered_of_shallow (by decide), steady_of_emptied (by cbv),
    fun name expired => ?_⟩
  have short : ∀ name ∈ someFolders.namesBelow outputTrail,
      isTooLong (joinPath (monthly "output").base name) = false := by decide
  exact short name ((FileTree.mem_namesBelow pending.sound).mpr ⟨_, expired.directory⟩)

/-- Of these entries an older run folder is removed with its file, and the file with such a name is
left. -/
theorem cleanUp_removes_expired_monthly :
    Feasible (monthly "output") false someFolders autumnDay outputTrail lastMonth ∧
      ∃ after, (monthly "output").cleanUp false someFolders autumnDay = .ok after ∧
        after.tree.entry? ["output", "20240101_0900_second", "results"] = none ∧
        after.tree.entry? ["output", "20240101_0900_file"] = some (.file "2") := by
  refine ⟨feasible_monthly, ?_⟩
  rcases (cleanUp_removes_expired (monthly "output") false someFolders autumnDay).2 _ _
    feasible_monthly with ⟨after, ended, swept, -⟩
  refine ⟨after, ended, swept.gone "20240101_0900_second" ["results"] expired_second, ?_⟩
  rw [swept.kept]
  · decide
  · intro name below expired there
    rcases List.cons.inj (List.cons.inj there).2 with ⟨rfl, -⟩
    exact absurd expired.directory (by decide)

/-- The path of the same directory with slashes behind it. -/
def slashedPath (slashes : Nat) : Text :=
  Text.ofString "output" ++ List.replicate slashes 0x2F

/-- The path of the same directory through its first entry. -/
def roundaboutPath : Text := "output/20231224_1800_first/.."

theorem length_slashedPath (slashes : Nat) {name : Text}
    (ascii : name.all (fun c => c.val < 0x80) = true) :
    (Utf8.encode (slashedPath slashes ++ name)).length = 6 + slashes + name.length := by
  have front : (Text.ofString "output").all (fun c => c.val < 0x80) = true := by decide
  simp only [List.all_eq_true, decide_eq_true_eq] at front ascii
  rw [Utf8.length_encode_of_ascii]
  · rw [List.length_append, slashedPath, List.length_append, List.length_replicate]
    rfl
  · rw [List.forall_mem_append, slashedPath, List.forall_mem_append]
    refine ⟨⟨front, fun c inside => ?_⟩, ascii⟩
    rw [List.eq_of_mem_replicate inside]
    decide

theorem pending_slashed {slashes : Nat} (few : slashes < 4090) :
    Pending (monthly (slashedPath slashes)) someFolders autumnDay outputTrail lastMonth := by
  apply pending_monthly
  apply FileTree.found?_slashes (by cbv)
  have length := @length_slashedPath slashes [] rfl
  rw [List.append_nil, List.length_nil] at length
  rw [← slashedPath, isTooLong, length, decide_eq_false_iff_not, FileTree.pathLimit]
  omega

/-- With enough slashes no entry has a path that can be used. -/
theorem cleanUp_slashed {slashes : Nat} (many : 4081 ≤ slashes) (few : slashes < 4090) :
    (monthly (slashedPath slashes)).cleanUp false someFolders autumnDay =
      .ok ⟨someFolders, 0, []⟩ := by
  rw [(pending_slashed few).cleanUp_eq, foldlM_visit_of_tooLong]
  intro name listed
  have facts : ∀ name ∈ someFolders.namesBelow outputTrail, FileTree.isAbsolute name = false ∧
      name.all (fun c => c.val < 0x80) = true ∧ 9 ≤ name.length := by decide
  rcases facts name listed with ⟨relative, ascii, long⟩
  have slash : (slashedPath slashes).getLast? = some 0x2F := by
    rw [slashedPath, List.getLast?_append_of_ne_nil _ (by simp; omega), List.getLast?_replicate,
      if_neg (by omega)]
  rw [joinPath, if_neg (by simp [relative]), monthly, if_pos (by simp [slash]), isTooLong,
    length_slashedPath slashes ascii, decide_eq_true_eq, FileTree.pathLimit]
  omega

/-- An expired folder is left if its path is too long, or if the path of the output directory leads
through one that is removed before. -/
theorem cleanUp_leaves_expired :
    Expired someFolders outputTrail lastMonth "20240101_0900_second" ∧
      Pending (monthly (slashedPath 4085)) someFolders autumnDay outputTrail lastMonth ∧
      (monthly (slashedPath 4085)).cleanUp false someFolders autumnDay = .ok ⟨someFolders, 0, []⟩ ∧
      Pending (monthly roundaboutPath) someFolders autumnDay outputTrail lastMonth ∧
      ∃ after, (monthly roundaboutPath).cleanUp false someFolders autumnDay = .ok after ∧
        after.tree.entry? ["output", "20240101_0900_second"] = some .directory := by
  have roundabout : Pending (monthly roundaboutPath) someFolders autumnDay outputTrail lastMonth :=
    pending_monthly (by cbv)
  exact ⟨expired_second, pending_slashed (by decide), cleanUp_slashed (by decide) (by decide),
    roundabout, ⟨without someFolders outputTrail ["20231224_1800_first"], 1, []⟩,
    roundabout.cleanUp_eq.trans (by cbv), by decide⟩

end RunFolder

end SocialMigration
