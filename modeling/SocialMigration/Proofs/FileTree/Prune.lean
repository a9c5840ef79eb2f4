import Mathlib.Data.List.Basic
import Mathlib.Data.List.Nodup
import SocialMigration.Proofs.FileTree.Walk

/-!
# What pruning leaves

A tree without what stands under a trail has all its other entries still, in the order in which they
were. A path to a directory still leads there as long as nothing is missing but what that directory
holds, unless the path itself runs through it. The order of the entries shows in listings and
nowhere else.
-/

namespace SocialMigration

namespace FileTree

/-- A tree whose entries have names that entries can have, each of them once. -/
structure IsSound (tree : FileTree) : Prop where
  distinct : (tree.entries.map Prod.fst).Nodup
  named : ∀ entry ∈ tree.entries, ∀ name ∈ entry.1, IsName name

variable {tree other : FileTree} {trail place : Trail} {name base : Text} {links left : Nat}
  {here : Trail} {names : List Text}

/-! ## Entries -/

theorem lookup_filter_key {Value : Type} (keeps : Trail → Bool) (place : Trail)
    (entries : List (Trail × Value)) :
    (entries.filter fun entry => keeps entry.1).lookup place =
      if keeps place then entries.lookup place else none := by
  induction entries with
  | nil => simp
  | cons entry entries ih =>
      rcases entry with ⟨key, value⟩
      rw [List.filter_cons]
      by_cases same : place = key
      · subst same
        cases kept : keeps place <;> simp [kept, ih]
      · have differs : (place == key) = false := by simpa using same
        cases keeps key <;> simp [List.lookup_cons, differs, ih]

theorem lookup_eq_some_iff_mem {Value : Type} {entries : List (Trail × Value)} {value : Value}
    (distinct : (entries.map Prod.fst).Nodup) :
    entries.lookup place = some value ↔ (place, value) ∈ entries := by
  induction entries with
  | nil => simp
  | cons entry entries ih =>
      rcases entry with ⟨key, found⟩
      rw [List.map_cons, List.nodup_cons] at distinct
      by_cases same : place = key
      · subst same
        have absent : (place, value) ∉ entries := fun inside =>
          distinct.1 (List.mem_map.mpr ⟨_, inside, rfl⟩)
        simp [absent, eq_comm]
      · have differs : (place == key) = false := by simpa using same
        simp [List.lookup_cons, differs, ih distinct.2, same]

theorem entry?_eq_some_iff {entry : Entry} (sound : tree.IsSound) (below : place ≠ []) :
    tree.entry? place = some entry ↔ (place, entry) ∈ tree.entries := by
  rw [FileTree.entry?, if_neg (by simpa using below)]
  exact lookup_eq_some_iff_mem sound.distinct

/-- What stands in a tree of which some entries are kept, whatever becomes of the root. -/
theorem entry?_filter (keeps : Trail → Bool) (root : keeps [] = true) (place : Trail) :
    FileTree.entry? { tree with entries := tree.entries.filter fun entry => keeps entry.1 } place =
      if keeps place then tree.entry? place else none := by
  rw [FileTree.entry?, FileTree.entry?, lookup_filter_key]
  cases place with
  | nil => simp [root]
  | cons => rfl

theorem isPrefixOf_eq_decide (trail place : Trail) :
    trail.isPrefixOf place = decide (trail <+: place) := by
  rw [Bool.eq_iff_iff, List.isPrefixOf_iff_prefix, decide_eq_true_iff]

/-- What is pruned is gone with all below it, and all else is still there. -/
theorem entry?_prune (below : trail ≠ []) (place : Trail) :
    FileTree.entry? (tree.prune trail) place =
      if trail <+: place then none else tree.entry? place := by
  have kept := tree.entry?_filter (fun other => !trail.isPrefixOf other)
    (by simpa [isPrefixOf_eq_decide] using below) place
  rw [prune, kept]
  by_cases under : trail <+: place <;> simp [isPrefixOf_eq_decide, under]

/-- Entries in another order are the same entries. -/
theorem entry?_eq_of_perm (sound : tree.IsSound) (same : other.entries.Perm tree.entries)
    (place : Trail) : other.entry? place = tree.entry? place := by
  by_cases root : place = []
  · simp [FileTree.entry?, root]
  · have sound' : other.IsSound :=
      ⟨(same.map Prod.fst).nodup_iff.mpr sound.distinct,
        fun entry inside => sound.named entry (same.mem_iff.mp inside)⟩
    apply Option.ext
    intro entry
    rw [entry?_eq_some_iff sound' root, entry?_eq_some_iff sound root, same.mem_iff]

/-! ## Listings -/

theorem namesBelow_eq (tree : FileTree) (trail : Trail) :
    tree.namesBelow trail = (tree.entries.map Prod.fst).filterMap fun place =>
      if place.dropLast == trail then place.getLast? else none := by
  rw [namesBelow, List.filterMap_map]
  rfl

theorem name_of_place :
    (if place.dropLast == trail then place.getLast? else none) = some name ↔
      place = trail ++ [name] := by
  constructor
  · intro named
    split at named
    · rename_i above
      rw [beq_iff_eq] at above
      rw [← above]
      exact (List.dropLast_append_getLast? _ named).symm
    · cases named
  · rintro rfl
    simp

/-- The names below a trail are those that lead from there to an entry. -/
theorem mem_namesBelow (sound : tree.IsSound) :
    name ∈ tree.namesBelow trail ↔ ∃ entry, tree.entry? (trail ++ [name]) = some entry := by
  have below : trail ++ [name] ≠ [] := by simp
  simp only [namesBelow_eq, List.mem_filterMap, name_of_place, exists_eq_right, List.mem_map,
    entry?_eq_some_iff sound below]
  constructor
  · rintro ⟨⟨_, entry⟩, inside, rfl⟩
    exact ⟨entry, inside⟩
  · rintro ⟨entry, inside⟩
    exact ⟨_, inside, rfl⟩

theorem nodup_namesBelow (sound : tree.IsSound) : (tree.namesBelow trail).Nodup := by
  rw [namesBelow_eq]
  apply sound.distinct.filterMap
  intro place place' name named named'
  rw [name_of_place.mp named, name_of_place.mp named']

theorem isName_of_mem (sound : tree.IsSound) (listed : name ∈ tree.namesBelow trail) :
    IsName name := by
  rcases (mem_namesBelow sound).mp listed with ⟨entry, inside⟩
  rw [entry?_eq_some_iff sound (by simp)] at inside
  exact sound.named _ inside name (by simp)

/-! ## A directory and what it holds -/

/-- A tree without what stands below a trail. -/
def emptied (tree : FileTree) (trail : Trail) : FileTree :=
  { tree with entries := tree.entries.filter fun (place, _) =>
      !(trail.isPrefixOf place && place != trail) }

theorem entry?_emptied (tree : FileTree) (trail place : Trail) :
    FileTree.entry? (tree.emptied trail) place =
      if trail <+: place ∧ place ≠ trail then none else tree.entry? place := by
  have kept := tree.entry?_filter (fun other => !(trail.isPrefixOf other && other != trail))
    (by cases trail <;> simp) place
  rw [emptied, kept]
  by_cases under : trail <+: place <;> by_cases same : place = trail <;>
    simp [isPrefixOf_eq_decide, under, same]

/-- A tree pruned below a trail has lost nothing but what stands there. -/
theorem emptied_prune (tree : FileTree) (trail : Trail) (name : Text) :
    (tree.prune (trail ++ [name])).emptied trail = tree.emptied trail := by
  simp only [emptied, prune, List.filter_filter]
  congr 2
  funext entry
  by_cases under : trail ++ [name] <+: entry.1
  · have below : trail <+: entry.1 := (List.prefix_append ..).trans under
    have strictly : entry.1 ≠ trail := by
      intro same
      have longer := under.length_le
      simp only [same, List.length_append, List.length_singleton] at longer
      omega
    simp [isPrefixOf_eq_decide, below, strictly]
  · simp [isPrefixOf_eq_decide, under]

/-- A path that leads to a directory without its entries leads there with them. -/
theorem found?_of_emptied (found : (tree.emptied trail).found? base = some (trail, .directory)) :
    tree.found? base = some (trail, .directory) := by
  refine found?_mono found rfl ?_ ?_
  · intro place entry inside
    rw [entry?_emptied] at inside
    split at inside
    · cases inside
    · exact inside
  · have ends := directory_of_found? found
    rwa [entry?_emptied, if_neg (by simp)] at ends

end FileTree

end SocialMigration
