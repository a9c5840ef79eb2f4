import SocialMigration.Proofs.Outcome
import SocialMigration.Proofs.RunFolder.Verdict

/-!
# One entry after the other

A clean-up looks at each entry by its path, which leads to the output directory first. Entries that
are due are removed as long as it still does: removing one may cut the path of the output directory,
but never turns it elsewhere, so that nothing is removed but what was due in the beginning. An entry
stops the clean-up if its directories stand too deep in each other, or if a warning about it is
refused by the output, and for no other reason.
-/

namespace SocialMigration

namespace RunFolder

open FileTree (IsName Enters joinPath isTooLong)

variable [Platform] {folder : RunFolder} {tree : FileTree} {base name date time : Text}
  {trail place there : Trail} {now : Moment} {limit : Int} {names gone : List Text}
  {verbose : Bool} {cleanUp after : CleanUp} {interrupted : Interrupted} {failure : Failure}

/-- Why a clean-up may warn about an entry: its name stands for no moment, it is old and only
linked, or the line that tells of its removal is refused. -/
inductive Concern (tree : FileTree) (base : Text) (trail : Trail) (limit : Int) (name : Text) :
    Text → Prop where
  | unread {date time : Text} {fault : NameFault} (shaped : groups? name = some (date, time))
      (unread : readMoment date time = .error fault) :
      Concern tree base trail limit name fault.message
  | linked {target : Text} (link : tree.entry? (trail ++ [name]) = some (.link target))
      (old : IsOld limit name) : Concern tree base trail limit name linkReason
  | untold {report : Text} (due : Due tree base trail limit name)
      (refused : Platform.refusal? (deletedLine name) = some report) :
      Concern tree base trail limit name report

/-- An entry stops a clean-up: it is due, with directories too deep in each other to be removed, or
a warning about it is refused. -/
inductive Obstructs (verbose : Bool) (tree : FileTree) (base : Text) (trail : Trail) (limit : Int)
    (name : Text) : Failure → Prop where
  | tooDeep (due : Due tree base trail limit name)
      (deep : tree.isTooDeepBelow (trail ++ [name]) Platform.folderRoom = true) :
      Obstructs verbose tree base trail limit name .unremoved
  | refused {reason report : Text} (concern : Concern tree base trail limit name reason)
      (refused : refusedIf verbose (warningLine name reason) = some report) :
      Obstructs verbose tree base trail limit name (.unprintable report)

/-- No entry stops a clean-up: whatever is due can be removed, and all warnings can be printed. -/
def Unhindered (verbose : Bool) (tree : FileTree) (base : Text) (trail : Trail)
    (limit : Int) : Prop :=
  ∀ name ∈ tree.namesBelow trail, ∀ failure, ¬Obstructs verbose tree base trail limit name failure

/-! ## What stands in the way -/

theorem concern_of_spared {left : Nat} {reason : Text} (enters : Enters tree base left trail)
    (noNull : 0 ∉ base) (named : IsName name)
    (spared : verdict tree base limit name = .spared reason) :
    Concern tree base trail limit name reason := by
  rcases cases_of_spared enters noNull named spared with
    ⟨date, time, fault, shaped, unread, rfl⟩ | ⟨⟨target, link⟩, old, rfl⟩
  · exact .unread shaped unread
  · exact .linked link old

theorem Concern.of_without {reason : Text}
    (concern : Concern (without tree trail gone) base trail limit name reason) :
    Concern tree base trail limit name reason := by
  cases concern with
  | unread shaped unread => exact .unread shaped unread
  | linked link old => exact .linked (entry?_of_without link) old
  | untold due refused => exact .untold due.of_without refused

/-- What stood in the way of a clean-up after something is gone did so before. -/
theorem Obstructs.of_without (apart : name ∉ gone)
    (obstructs : Obstructs verbose (without tree trail gone) base trail limit name failure) :
    Obstructs verbose tree base trail limit name failure := by
  cases obstructs with
  | tooDeep due deep => exact .tooDeep due.of_without (isTooDeepBelow_without apart ▸ deep)
  | refused concern refused => exact .refused concern.of_without refused

/-- Where no warnings are wanted only directories too deep in each other stop a clean-up. -/
theorem unhindered_of_shallow (shallow : ∀ name ∈ tree.namesBelow trail,
    tree.isTooDeepBelow (trail ++ [name]) Platform.folderRoom = false) :
    Unhindered false tree base trail limit := by
  intro name listed failure obstructs
  cases obstructs with
  | tooDeep due deep => exact nomatch (shallow name listed).symm.trans deep
  | refused concern refused => exact nomatch refused

/-! ## One look after the other -/

theorem tell_tree {line : Text} (told : cleanUp.tell verbose line = .ok after) :
    after.tree = cleanUp.tree ∧ after.removed = cleanUp.removed := by
  rw [CleanUp.tell] at told
  split at told
  · cases told
  · cases told
    cases verbose <;> exact ⟨rfl, rfl⟩

theorem tell_eq_error_iff {line report : Text} :
    cleanUp.tell verbose line = .error report ↔ refusedIf verbose line = some report := by
  rw [CleanUp.tell]
  cases refusedIf verbose line <;> simp

theorem warn_eq_error {reason : Text}
    (stopped : cleanUp.warn verbose name reason = .error interrupted) :
    ∃ report, refusedIf verbose (warningLine name reason) = some report ∧
      interrupted.failure = .unprintable report := by
  rcases mapError_eq_error_iff.mp stopped with ⟨report, untold, rfl⟩
  exact ⟨report, tell_eq_error_iff.mp untold, rfl⟩

theorem warn_tree {reason : Text} (warned : cleanUp.warn verbose name reason = .ok after) :
    after.tree = cleanUp.tree ∧ after.removed = cleanUp.removed :=
  tell_tree (mapError_eq_ok_iff.mp warned)

/-- A removal goes through if the directories are not too deep, and then the folder is gone. -/
theorem remove_tree (removed : cleanUp.remove verbose name place = .ok after) :
    cleanUp.tree.isTooDeepBelow place Platform.folderRoom = false ∧
      after.tree = cleanUp.tree.prune place ∧ after.removed = cleanUp.removed + 1 := by
  rw [CleanUp.remove] at removed
  split at removed
  · cases removed
  · rename_i shallow
    refine ⟨Bool.not_eq_true _ ▸ shallow, ?_⟩
    dsimp only at removed
    split at removed
    · rename_i told
      cases removed
      exact tell_tree told
    · exact warn_tree removed

/-- What stops a removal: directories too deep in each other, or a warning that is refused after the
line was. -/
theorem remove_eq_error (stopped : cleanUp.remove verbose name place = .error interrupted) :
    (cleanUp.tree.isTooDeepBelow place Platform.folderRoom = true ∧
      interrupted.failure = .unremoved) ∨
    ∃ reason report, Platform.refusal? (deletedLine name) = some reason ∧
      refusedIf verbose (warningLine name reason) = some report ∧
      interrupted.failure = .unprintable report := by
  rw [CleanUp.remove] at stopped
  split at stopped
  · rename_i deep
    cases stopped
    exact .inl ⟨deep, rfl⟩
  · dsimp only at stopped
    split at stopped
    · cases stopped
    · rename_i reason untold
      rcases warn_eq_error stopped with ⟨report, refused, same⟩
      refine .inr ⟨reason, report, ?_, refused, same⟩
      have refused' := tell_eq_error_iff.mp untold
      rw [refusedIf] at refused'
      split at refused'
      · exact refused'
      · cases refused'

/-- A look at one entry removes it at most, if it is due and not too deep, and does remove it then
if the path still leads to the directory. -/
theorem visit_step (only : ∀ left there, Enters cleanUp.tree base left there → there = trail)
    (noNull : 0 ∉ base) (named : IsName name)
    (visited : cleanUp.visit verbose base limit name = .ok after) :
    ∃ gone, gone.Sublist [name] ∧
      (∀ other ∈ gone, Due cleanUp.tree base trail limit other) ∧
      (∀ other ∈ gone,
        cleanUp.tree.isTooDeepBelow (trail ++ [other]) Platform.folderRoom = false) ∧
      (∀ left, Enters cleanUp.tree base left trail → Due cleanUp.tree base trail limit name →
        name ∈ gone) ∧
      after.tree = without cleanUp.tree trail gone ∧
      after.removed = cleanUp.removed + gone.length := by
  rw [CleanUp.visit] at visited
  cases outcome : verdict cleanUp.tree base limit name with
  | removed place =>
      rcases enters_of_verdict named outcome (by simp) with ⟨left, there, enters⟩
      obtain rfl := only left there enters
      rcases (verdict_eq_removed_iff enters noNull named).mp outcome with ⟨rfl, due⟩
      rw [outcome] at visited
      rcases remove_tree visited with ⟨shallow, pruned, counted⟩
      exact ⟨[name], .refl _, by simpa using due, by simpa using shallow, by simp, pruned, counted⟩
  | kept =>
      rw [outcome] at visited
      cases visited
      refine ⟨[], List.nil_sublist _, by simp, by simp, ?_, rfl, rfl⟩
      intro left enters due
      have removed := (verdict_eq_removed_iff enters noNull named).mpr ⟨rfl, due⟩
      exact nomatch outcome.symm.trans removed
  | spared reason =>
      rw [outcome] at visited
      refine ⟨[], List.nil_sublist _, by simp, by simp, ?_, warn_tree visited⟩
      intro left enters due
      have removed := (verdict_eq_removed_iff enters noNull named).mpr ⟨rfl, due⟩
      exact nomatch outcome.symm.trans removed

/-- A look at an entry is stopped by that entry. -/
theorem visit_eq_error (only : ∀ left there, Enters cleanUp.tree base left there → there = trail)
    (noNull : 0 ∉ base) (named : IsName name)
    (stopped : cleanUp.visit verbose base limit name = .error interrupted) :
    Obstructs verbose cleanUp.tree base trail limit name interrupted.failure := by
  rw [CleanUp.visit] at stopped
  cases outcome : verdict cleanUp.tree base limit name with
  | kept =>
      rw [outcome] at stopped
      cases stopped
  | removed place =>
      rcases enters_of_verdict named outcome (by simp) with ⟨left, there, enters⟩
      obtain rfl := only left there enters
      rcases (verdict_eq_removed_iff enters noNull named).mp outcome with ⟨rfl, due⟩
      rw [outcome] at stopped
      rcases remove_eq_error stopped with ⟨deep, same⟩ | ⟨reason, report, untold, refused, same⟩
      · exact same ▸ .tooDeep due deep
      · exact same ▸ .refused (.untold due untold) refused
  | spared reason =>
      rw [outcome] at stopped
      rcases warn_eq_error stopped with ⟨report, refused, same⟩
      rcases enters_of_verdict named outcome (by simp) with ⟨left, there, enters⟩
      obtain rfl := only left there enters
      exact same ▸ .refused (concern_of_spared enters noNull named outcome) refused

/-- A clean-up of different names that goes through removes none but those that were due when it
began, of which none was too deep, and all of them if the path goes on leading to the directory. -/
theorem foldlM_visit (distinct : names.Nodup) (named : ∀ name ∈ names, IsName name)
    (noNull : 0 ∉ base)
    (only : ∀ left there, Enters cleanUp.tree base left there → there = trail)
    (ended : names.foldlM (CleanUp.visit verbose base limit) cleanUp = .ok after) :
    ∃ gone, gone.Sublist names ∧ (∀ name ∈ gone, Due cleanUp.tree base trail limit name) ∧
      (∀ name ∈ gone,
        cleanUp.tree.isTooDeepBelow (trail ++ [name]) Platform.folderRoom = false) ∧
      (Firm cleanUp.tree base trail limit →
        ∀ name ∈ names, Due cleanUp.tree base trail limit name → name ∈ gone) ∧
      after.tree = without cleanUp.tree trail gone ∧
      after.removed = cleanUp.removed + gone.length := by
  induction names generalizing cleanUp with
  | nil =>
      cases ended
      exact ⟨[], .slnil, by simp, by simp, by simp, rfl, rfl⟩
  | cons name names ih =>
      rw [List.nodup_cons] at distinct
      rw [List.forall_mem_cons] at named
      rw [List.foldlM_cons] at ended
      cases visited : cleanUp.visit verbose base limit name with
      | error interrupted =>
          rw [visited] at ended
          cases ended
      | ok between =>
          rw [visited] at ended
          rcases visit_step only noNull named.1 visited with
            ⟨first, single, due, shallow, taken, pruned, counted⟩
          have apart : ∀ later ∈ names, later ∉ first := notMem_of_single distinct.1 single
          have only' : ∀ left there, Enters between.tree base left there → there = trail :=
            pruned ▸ only_of_without only
          rcases ih distinct.2 named.2 only' ended with
            ⟨rest, inside, due', shallow', taken', tree, removed⟩
          rw [pruned] at due' shallow' taken'
          refine ⟨first ++ rest, single.append inside, ?_, ?_, ?_, ?_, ?_⟩
          · rw [List.forall_mem_append]
            exact ⟨due, fun later listed => (due' later listed).of_without⟩
          · rw [List.forall_mem_append]
            refine ⟨shallow, fun later listed => ?_⟩
            rw [← isTooDeepBelow_without (apart later (inside.subset listed))]
            exact shallow' later listed
          · intro firm
            rw [List.forall_mem_cons]
            constructor
            · intro old
              rcases firm [] (by simp) with ⟨left, enters⟩
              exact List.mem_append_left rest (taken left enters old)
            · intro later listed old
              have old' := (due_without_iff (apart later listed)).mpr old
              exact List.mem_append_right first (taken' (firm.without due) later listed old')
          · rw [tree, pruned, without_append]
          · rw [removed, counted, List.length_append, Nat.add_assoc]

/-- A clean-up of different names is stopped by one of them. -/
theorem foldlM_visit_eq_error (distinct : names.Nodup) (named : ∀ name ∈ names, IsName name)
    (noNull : 0 ∉ base)
    (only : ∀ left there, Enters cleanUp.tree base left there → there = trail)
    (stopped : names.foldlM (CleanUp.visit verbose base limit) cleanUp = .error interrupted) :
    ∃ name ∈ names,
      Obstructs verbose cleanUp.tree base trail limit name interrupted.failure := by
  induction names generalizing cleanUp with
  | nil => cases stopped
  | cons name names ih =>
      rw [List.nodup_cons] at distinct
      rw [List.forall_mem_cons] at named
      rw [List.foldlM_cons] at stopped
      cases visited : cleanUp.visit verbose base limit name with
      | error interrupted' =>
          rw [visited] at stopped
          cases stopped
          exact ⟨name, List.mem_cons_self, visit_eq_error only noNull named.1 visited⟩
      | ok between =>
          rw [visited] at stopped
          rcases visit_step only noNull named.1 visited with ⟨first, single, -, -, -, pruned, -⟩
          have only' : ∀ left there, Enters between.tree base left there → there = trail :=
            pruned ▸ only_of_without only
          rcases ih distinct.2 named.2 only' stopped with ⟨later, listed, obstructs⟩
          have apart : later ∉ first := notMem_of_single distinct.1 single later listed
          rw [pruned] at obstructs
          exact ⟨later, List.mem_cons_of_mem name listed, obstructs.of_without apart⟩

/-- Entries with too long paths are passed over. -/
theorem foldlM_visit_of_tooLong (long : ∀ name ∈ names, isTooLong (joinPath base name) = true) :
    names.foldlM (CleanUp.visit verbose base limit) cleanUp = .ok cleanUp := by
  induction names with
  | nil => rfl
  | cons name names ih =>
      rw [List.forall_mem_cons] at long
      have passed : cleanUp.visit verbose base limit name = .ok cleanUp := by
        rw [CleanUp.visit, verdict_of_tooLong long.1, CleanUp.execute]
      rw [List.foldlM_cons, passed]
      exact ih long.2

/-! ## The whole clean-up -/

/-- A clean-up that can count back to its cutoff goes through all entries. -/
theorem cleanUp_eq (found : tree.found? folder.base = some (trail, .directory))
    (kept : 0 < folder.retentionDays) (valid : now.IsValid)
    (few : folder.retentionDays < now.dayNumber) :
    folder.cleanUp verbose tree now = (tree.namesBelow trail).foldlM
      (CleanUp.visit verbose folder.base
        (now.instant - folder.retentionDays * Calendar.microsecondsPerDay)) ⟨tree, 0, []⟩ := by
  rw [RunFolder.cleanUp, found]
  simp only
  rw [if_neg (by omega), cutoff_of_lt valid few]

/-- Without an output directory there is nothing to do. -/
theorem cleanUp_of_not_found (none : ∀ trail, tree.found? folder.base ≠ some (trail, .directory)) :
    folder.cleanUp verbose tree now = .ok ⟨tree, 0, []⟩ := by
  rw [RunFolder.cleanUp]
  split
  · rename_i found
    exact absurd found (none _)
  · rfl

/-- A look at all entries of a directory that goes through removes none but those that are due and
not too deep, and all of these if the path goes on leading to the directory. -/
theorem foldlM_visit_namesBelow (sound : tree.IsSound)
    (found : tree.found? base = some (trail, .directory))
    (ended : (tree.namesBelow trail).foldlM (CleanUp.visit verbose base limit) ⟨tree, 0, []⟩ =
      .ok after) :
    ∃ gone : List Text, gone.Nodup ∧ (∀ name ∈ gone, Due tree base trail limit name) ∧
      (∀ name ∈ gone, tree.isTooDeepBelow (trail ++ [name]) Platform.folderRoom = false) ∧
      (Firm tree base trail limit → ∀ name, Due tree base trail limit name → name ∈ gone) ∧
      after.tree = without tree trail gone ∧ after.removed = gone.length := by
  rcases FileTree.walk_of_locate (FileTree.found?_eq_some_iff.mp found) with ⟨noNull, -, -, -⟩
  rcases FileTree.enters_of_found? found with ⟨left, enters⟩
  have distinct : (tree.namesBelow trail).Nodup := FileTree.nodup_namesBelow sound
  have only : ∀ left' there, Enters tree base left' there → there = trail :=
    fun left' there enters' => (FileTree.Leads.unique enters' enters).2
  rcases foldlM_visit distinct (fun name => FileTree.isName_of_mem sound) noNull (by exact only)
    ended with
    ⟨gone, inside, due, shallow, taken, pruned, removed⟩
  refine ⟨gone, inside.nodup distinct, due, shallow, fun firm name old => ?_, pruned, ?_⟩
  · exact taken firm name ((FileTree.mem_namesBelow sound).mpr ⟨_, old.directory⟩) old
  · rw [removed, Nat.zero_add]

/-- A look at all entries of a directory is stopped by one of them. -/
theorem foldlM_visit_namesBelow_eq_error (sound : tree.IsSound)
    (found : tree.found? base = some (trail, .directory))
    (stopped : (tree.namesBelow trail).foldlM (CleanUp.visit verbose base limit) ⟨tree, 0, []⟩ =
      .error interrupted) :
    ∃ name ∈ tree.namesBelow trail,
      Obstructs verbose tree base trail limit name interrupted.failure := by
  rcases FileTree.walk_of_locate (FileTree.found?_eq_some_iff.mp found) with ⟨noNull, -, -, -⟩
  rcases FileTree.enters_of_found? found with ⟨left, enters⟩
  have only : ∀ left' there, Enters tree base left' there → there = trail :=
    fun left' there enters' => (FileTree.Leads.unique enters' enters).2
  exact foldlM_visit_eq_error (FileTree.nodup_namesBelow sound)
    (fun name => FileTree.isName_of_mem sound) noNull (by exact only) stopped

/-- A look at all entries goes through if none stops it. -/
theorem Unhindered.foldlM_visit (unhindered : Unhindered verbose tree base trail limit)
    (sound : tree.IsSound) (found : tree.found? base = some (trail, .directory)) :
    ∃ after, (tree.namesBelow trail).foldlM (CleanUp.visit verbose base limit) ⟨tree, 0, []⟩ =
      .ok after := by
  cases outcome : (tree.namesBelow trail).foldlM (CleanUp.visit verbose base limit)
    ⟨tree, 0, []⟩ with
  | ok after => exact ⟨after, rfl⟩
  | error interrupted =>
      rcases foldlM_visit_namesBelow_eq_error sound found outcome with ⟨name, listed, obstructs⟩
      exact absurd obstructs (unhindered name listed _)

end RunFolder

end SocialMigration
