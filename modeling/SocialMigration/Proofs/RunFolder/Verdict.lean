import Mathlib
import SocialMigration.Proofs.FileTree.Prune
import SocialMigration.Proofs.RunFolder.Name
import SocialMigration.RunFolder.Retention

/-!
# Which entries are due

An entry of the output directory is due if it is a directory with an old name, and that is when a
look at it has it removed. What else is due stays so when some of what is due is gone, and a path
that still leads anywhere leads to where it led.
-/

namespace SocialMigration

namespace RunFolder

open FileTree (IsName Enters joinPath isTooLong)

/-- A name from which a moment before a limit is read. -/
def IsOld (limit : Int) (name : Text) : Prop :=
  ∃ date time moment, groups? name = some (date, time) ∧ readMoment date time = .ok moment ∧
    moment.instant < limit

/-- An entry below a trail that is removed when it is looked at: itself a directory, with an old
name and a path that is not too long. -/
structure Due (tree : FileTree) (base : Text) (trail : Trail) (limit : Int) (name : Text) :
    Prop where
  directory : tree.entry? (trail ++ [name]) = some .directory
  old : IsOld limit name
  short : isTooLong (joinPath base name) = false

/-- A tree without the entries of some names below a trail. -/
def without (tree : FileTree) (trail : Trail) (gone : List Text) : FileTree :=
  gone.foldl (fun tree name => tree.prune (trail ++ [name])) tree

/-- A path that leads to a directory, whichever of its entries that are due are gone. -/
def Firm (tree : FileTree) (base : Text) (trail : Trail) (limit : Int) : Prop :=
  ∀ gone, (∀ name ∈ gone, Due tree base trail limit name) →
    ∃ left, Enters (without tree trail gone) base left trail

variable {folder : RunFolder} {tree : FileTree} {base name date time : Text} {left : Nat}
  {trail place there : Trail} {now moment : Moment} {limit : Int} {names gone : List Text}
  {room : Nat}

/-! ## The cutoff -/

/-- A cutoff can be counted back to as long as it does not lie before the first day. -/
theorem cutoff_of_lt {days : Int} (valid : now.IsValid) (few : days < now.dayNumber) :
    RunFolder.cutoff now days = .ok (now.instant - days * Calendar.microsecondsPerDay) := by
  have late := valid.dayNumber_le
  rw [Moment.dayNumber] at few
  rw [RunFolder.cutoff, if_neg (by omega), if_neg (by rw [dayLimit]; omega),
    if_neg (by rw [Moment.dayNumber]; omega)]

theorem cutoff_of_le {days : Int} (many : now.dayNumber ≤ days) :
    ∃ fault, RunFolder.cutoff now days = .error fault := by
  rw [RunFolder.cutoff, if_pos many]
  split
  · exact ⟨_, rfl⟩
  · split <;> exact ⟨_, rfl⟩

/-! ## The verdict on an entry -/

theorem judge_eq_removed_iff {linked : Bool} :
    judge limit there linked date time = .removed place ↔
      place = there ∧ linked = false ∧
        ∃ moment, readMoment date time = .ok moment ∧ moment.instant < limit := by
  rw [judge]
  cases readMoment date time with
  | error fault => simp
  | ok moment =>
      simp only [Except.ok.injEq, exists_eq_left']
      by_cases early : (moment.instant : Int) < limit
      · cases linked <;> simp [early, eq_comm]
      · simp [early]

theorem judge_eq_spared {linked : Bool} {reason : Text}
    (spared : judge limit there linked date time = .spared reason) :
    (∃ fault, readMoment date time = .error fault ∧ reason = fault.message) ∨
    linked = true ∧ (∃ moment, readMoment date time = .ok moment ∧ moment.instant < limit) ∧
      reason = linkReason := by
  rw [judge] at spared
  cases read : readMoment date time with
  | error fault =>
      simp only [read, Verdict.spared.injEq] at spared
      exact .inl ⟨fault, rfl, spared.symm⟩
  | ok moment =>
      simp only [read] at spared
      split at spared
      · rename_i early
        cases linked with
        | true =>
            simp only [if_true, Verdict.spared.injEq] at spared
            exact .inr ⟨rfl, ⟨moment, rfl, early⟩, spared.symm⟩
        | false => simp at spared
      · cases spared

theorem isOld_of_groups (shaped : groups? name = some (date, time)) :
    IsOld limit name ↔ ∃ moment, readMoment date time = .ok moment ∧ moment.instant < limit := by
  constructor
  · rintro ⟨_, _, moment, shaped', read⟩
    cases shaped.symm.trans shaped'
    exact ⟨moment, read⟩
  · rintro ⟨moment, read⟩
    exact ⟨date, time, moment, shaped, read⟩

/-- The name of a minute is as old as that. -/
theorem Names.isOld_iff (names : Names name moment) :
    IsOld limit name ↔ (moment.instant : Int) < limit := by
  rcases names.read with ⟨date, time, shaped, read⟩
  rw [isOld_of_groups shaped, read]
  simp

theorem isLink_joinPath (enters : Enters tree base left trail) (noNull : 0 ∉ base)
    (named : IsName name) (short : isTooLong (joinPath base name) = false) :
    isLink tree (joinPath base name) = true ↔
      ∃ target, tree.entry? (trail ++ [name]) = some (.link target) := by
  rw [isLink, enters.locate_itself_joinPath noNull named short, FileTree.placeAt]
  cases tree.entry? (trail ++ [name]) with
  | none => simp
  | some entry => cases entry <;> simp

/-- The verdict on a name of the right shape, by what its path leads to. -/
theorem verdict_of_groups (shaped : groups? name = some (date, time)) :
    verdict tree base limit name =
      match tree.found? (joinPath base name) with
      | some (trail, .directory) => judge limit trail (isLink tree (joinPath base name)) date time
      | _ => .kept := by
  rewrite [verdict, shaped]
  rfl

/-- What is judged was found by its path. -/
theorem found?_of_verdict (judged : verdict tree base limit name ≠ .kept) :
    ∃ place, tree.found? (joinPath base name) = some (place, .directory) := by
  cases shaped : groups? name with
  | none => exact absurd (by simp [verdict, shaped]) judged
  | some groups =>
      rw [verdict_of_groups shaped] at judged
      split at judged
      · exact ⟨_, ‹_›⟩
      · exact absurd rfl judged

/-- What has too long a path is not found. -/
theorem found?_of_tooLong {path : Text} (long : isTooLong path = true) :
    tree.found? path = none := by
  cases found : tree.found? path with
  | none => rfl
  | some place =>
      rcases FileTree.walk_of_locate (FileTree.found?_eq_some_iff.mp found) with ⟨-, -, short, -⟩
      exact nomatch long.symm.trans short

theorem verdict_of_tooLong (long : isTooLong (joinPath base name) = true) :
    verdict tree base limit name = .kept := by
  cases shaped : groups? name with
  | none => simp [verdict, shaped]
  | some groups => rw [verdict_of_groups shaped, found?_of_tooLong long]

/-- What is judged was found in the directory to which the path in front leads. -/
theorem enters_of_verdict {outcome : Verdict} (named : IsName name)
    (verdict_eq : verdict tree base limit name = outcome) (judged : outcome ≠ .kept) :
    ∃ left trail, Enters tree base left trail := by
  rcases found?_of_verdict (verdict_eq.trans_ne judged) with ⟨place, found⟩
  rcases FileTree.enters_of_locate named.isPart (FileTree.found?_eq_some_iff.mp found) with
    ⟨left, trail, enters, -⟩
  exact ⟨left, trail, enters⟩

/-- What is spared has a name from which no moment is read, or it is old and itself a link. -/
theorem cases_of_spared {reason : Text} (enters : Enters tree base left trail) (noNull : 0 ∉ base)
    (named : IsName name) (spared : verdict tree base limit name = .spared reason) :
    (∃ date time fault, groups? name = some (date, time) ∧ readMoment date time = .error fault ∧
      reason = fault.message) ∨
    (∃ target, tree.entry? (trail ++ [name]) = some (.link target)) ∧ IsOld limit name ∧
      reason = linkReason := by
  have short : isTooLong (joinPath base name) = false := by
    by_contra long
    rw [Bool.not_eq_false] at long
    exact nomatch (verdict_of_tooLong long).symm.trans spared
  cases shaped : groups? name with
  | none => simp [verdict, shaped] at spared
  | some groups =>
      rcases groups with ⟨date, time⟩
      rw [verdict_of_groups shaped] at spared
      split at spared
      · rcases judge_eq_spared spared with ⟨fault, unread, same⟩ | ⟨linked, old, same⟩
        · exact .inl ⟨date, time, fault, rfl, unread, same⟩
        · exact .inr ⟨(isLink_joinPath enters noNull named short).mp linked,
            (isOld_of_groups shaped).mpr old, same⟩
      · cases spared

/-- Nothing is removed but an entry that is due. -/
theorem verdict_eq_removed_iff (enters : Enters tree base left trail) (noNull : 0 ∉ base)
    (named : IsName name) :
    verdict tree base limit name = .removed place ↔
      place = trail ++ [name] ∧ Due tree base trail limit name := by
  by_cases long : isTooLong (joinPath base name) = true
  · have never : ¬Due tree base trail limit name := fun due => nomatch long.symm.trans due.short
    simp [verdict_of_tooLong long, never]
  rw [Bool.not_eq_true] at long
  cases shaped : groups? name with
  | none =>
      have never : ¬Due tree base trail limit name := by
        rintro ⟨-, ⟨_, _, _, shaped', -⟩, -⟩
        exact nomatch shaped.symm.trans shaped'
      simp [verdict, shaped, never]
  | some groups =>
      rw [verdict_of_groups shaped]
      by_cases direct : ∃ target, tree.entry? (trail ++ [name]) = some (.link target)
      · have linked := (isLink_joinPath enters noNull named long).mpr direct
        rcases direct with ⟨target, inside⟩
        have never : ¬Due tree base trail limit name :=
          fun due => nomatch inside.symm.trans due.directory
        split
        · simp [judge_eq_removed_iff, linked, never]
        · simp [never]
      · have unlinked : isLink tree (joinPath base name) = false := by
          rw [← Bool.not_eq_true, isLink_joinPath enters noNull named long]
          exact direct
        rw [enters.found?_joinPath noNull named long (not_exists.mp direct)]
        by_cases directory : tree.entry? (trail ++ [name]) = some .directory
        · have due_iff : Due tree base trail limit name ↔ IsOld limit name :=
            ⟨Due.old, fun old => ⟨directory, old, long⟩⟩
          rw [directory, Option.map_some, judge_eq_removed_iff, unlinked, due_iff,
            isOld_of_groups shaped]
          simp
        · have never : ¬Due tree base trail limit name := fun due => directory due.directory
          rcases inside : tree.entry? (trail ++ [name]) with _ | _ | _ | _
          all_goals simp_all

/-! ## What is gone -/

theorem entry?_without (gone : List Text) (place : Trail) :
    FileTree.entry? (without tree trail gone) place =
      if ∃ name ∈ gone, trail ++ [name] <+: place then none else tree.entry? place := by
  induction gone generalizing tree with
  | nil => simp [without]
  | cons name gone ih =>
      have first : without tree trail (name :: gone) =
          without (tree.prune (trail ++ [name])) trail gone := rfl
      rw [first, ih, FileTree.entry?_prune (by simp)]
      by_cases under : trail ++ [name] <+: place <;> simp [under]

/-- Of what stands itself below the trail, just the names are gone. -/
theorem entry?_without_own (gone : List Text) (name : Text) :
    FileTree.entry? (without tree trail gone) (trail ++ [name]) =
      if name ∈ gone then none else tree.entry? (trail ++ [name]) := by
  rw [entry?_without]
  congr 1
  rw [eq_iff_iff]
  constructor
  · rintro ⟨other, listed, under⟩
    rw [List.prefix_append_right_inj] at under
    exact (List.cons_prefix_cons.mp under).1 ▸ listed
  · exact fun listed => ⟨name, listed, List.prefix_rfl⟩

/-- What is not gone stood there before. -/
theorem entry?_of_without {entry : FileTree.Entry} {place : Trail}
    (inside : FileTree.entry? (without tree trail gone) place = some entry) :
    tree.entry? place = some entry := by
  rw [entry?_without] at inside
  split at inside
  · cases inside
  · exact inside

theorem without_append (gone later : List Text) :
    without tree trail (gone ++ later) = without (without tree trail gone) trail later :=
  List.foldl_append

theorem without_working (gone : List Text) : (without tree trail gone).working = tree.working := by
  induction gone generalizing tree with
  | nil => rfl
  | cons name gone ih => exact ih

/-- No path leads elsewhere when something is gone. -/
theorem enters_of_without (enters : Enters (without tree trail gone) base left there) :
    Enters tree base left there :=
  enters.mono (without_working gone).symm fun _ _ _ => entry?_of_without

/-- A path that leads nowhere else does not do so either when something is gone. -/
theorem only_of_without (only : ∀ left there, Enters tree base left there → there = trail) :
    ∀ left there, Enters (without tree trail gone) base left there → there = trail :=
  fun left there enters => only left there (enters_of_without enters)

theorem notMem_of_single (apart : name ∉ names) (single : gone.Sublist [name]) :
    ∀ later ∈ names, later ∉ gone := by
  intro later inside listed
  obtain rfl := List.mem_singleton.mp (single.subset listed)
  exact apart inside

/-- Nothing is due that was not so when more was there. -/
theorem Due.of_without (due : Due (without tree trail gone) base trail limit name) :
    Due tree base trail limit name :=
  ⟨entry?_of_without due.directory, due.old, due.short⟩

/-- What stands below one name is not missing when others are gone. -/
theorem due_without_iff (apart : name ∉ gone) :
    Due (without tree trail gone) base trail limit name ↔ Due tree base trail limit name := by
  refine ⟨.of_without, fun due => ⟨?_, due.old, due.short⟩⟩
  rw [entry?_without_own, if_neg apart, due.directory]

/-- What stands below a trail is not missed elsewhere. -/
theorem emptied_without (tree : FileTree) (trail : Trail) (gone : List Text) :
    (without tree trail gone).emptied trail = tree.emptied trail := by
  induction gone generalizing tree with
  | nil => rfl
  | cons name gone ih =>
      exact (ih (tree.prune (trail ++ [name]))).trans (tree.emptied_prune trail name)

theorem Firm.without (firm : Firm tree base trail limit)
    (due : ∀ name ∈ gone, Due tree base trail limit name) :
    Firm (without tree trail gone) base trail limit := by
  intro later all
  rw [← without_append]
  apply firm
  rw [List.forall_mem_append]
  exact ⟨due, fun name listed => (all name listed).of_without⟩

/-- What is gone beside a directory does not make it less deep. -/
theorem isTooDeepBelow_without (apart : name ∉ gone) :
    (without tree trail gone).isTooDeepBelow (trail ++ [name]) room =
      tree.isTooDeepBelow (trail ++ [name]) room := by
  induction gone generalizing tree with
  | nil => rfl
  | cons other gone ih =>
      rw [List.mem_cons, not_or] at apart
      have first : without tree trail (other :: gone) =
          without (tree.prune (trail ++ [other])) trail gone := rfl
      rw [first, ih apart.2, FileTree.isTooDeepBelow, FileTree.isTooDeepBelow, FileTree.prune,
        List.any_filter]
      congr 1
      funext entry
      by_cases under : trail ++ [name] <+: entry.1
      · have beside : ¬trail ++ [other] <+: entry.1 := by
          intro under'
          rcases under with ⟨rest, same⟩
          rw [← same, List.append_assoc, List.prefix_append_right_inj] at under'
          exact apart.1 (List.cons_prefix_cons.mp under').1.symm
        simp [FileTree.isPrefixOf_eq_decide, beside]
      · simp [FileTree.isPrefixOf_eq_decide, under]

end RunFolder

end SocialMigration
