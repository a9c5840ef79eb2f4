import Mathlib.Data.List.Basic
import SocialMigration.FileTree.Change
import SocialMigration.Text.Alphanumeric

/-!
# Whose fault a path is

A code point of zero is the fault of the path that holds it and of nothing else: no walk along the
names of a path finds it, and the directories on the way to a path hold no code points but its own.
-/

namespace SocialMigration

namespace FileTree

variable {tree : FileTree} {purpose : Purpose} {links : Nat} {here : Trail} {names : List Text}
  {path base name : Text} {fault : Fault}

theorem walk_ne_nullInPath : tree.walk purpose links here names ≠ .error .nullInPath := by
  fun_induction walk tree purpose links here names with
  | case6 =>
      rw [placeOfFree]
      split <;> simp
  | _ => simp_all

theorem locate_eq_nullInPath_iff : tree.locate purpose path = .error .nullInPath ↔ 0 ∈ path := by
  rw [locate]
  by_cases null : 0 ∈ path
  · simp [null]
  · simp only [List.contains_eq_mem, null, decide_false, Bool.false_eq_true, if_false, iff_false]
    split
    · simp
    · split
      · simp
      · exact walk_ne_nullInPath

theorem mem_joinPath {c : CodePoint} (inside : c ∈ joinPath base name) :
    c ∈ base ∨ c ∈ name ∨ c = 0x2F := by
  rw [joinPath] at inside
  split at inside
  · exact .inr (.inl inside)
  · split at inside
    · rcases List.mem_append.mp inside with front | back
      · exact .inl front
      · exact .inr (.inl back)
    · simp only [List.append_assoc, List.mem_append, List.mem_singleton] at inside
      rcases inside with front | slash | back
      · exact .inl front
      · exact .inr (.inr slash)
      · exact .inr (.inl back)

theorem withoutSlashes_subset (path : Text) : withoutSlashes path ⊆ path := by
  intro c inside
  rw [withoutSlashes, List.mem_reverse] at inside
  exact List.mem_reverse.mp ((List.dropWhile_suffix _).subset inside)

theorem splitPath_subset (path : Text) : (splitPath path).1 ⊆ path := by
  have front : path.take (path.length - ((path.reverse.takeWhile (· != 0x2F)).reverse).length) ⊆
      path := List.take_subset _ _
  rw [splitPath]
  split
  · exact front
  · exact fun _ inside => front (withoutSlashes_subset _ inside)

/-- The directory of a path holds no code points but those of the path. -/
theorem parent_subset (path : Text) : (parentAndName path).1 ⊆ path := by
  rw [parentAndName]
  split
  · rename_i head same
    have outer := splitPath_subset path
    rw [same] at outer
    exact fun _ inside => outer (splitPath_subset head inside)
  · exact splitPath_subset path

theorem null_of_ensureDirectory (failed : tree.ensureDirectory path = .error fault)
    (null : fault.kind = .nullInPath) : 0 ∈ path := by
  rw [ensureDirectory] at failed
  split at failed
  · cases failed
  · rename_i kind refused
    split at failed
    · cases failed
    · cases failed
      obtain rfl : kind = .nullInPath := null
      rw [makeDirectory] at refused
      split at refused
      · rename_i found
        cases refused
        exact locate_eq_nullInPath_iff.mp found
      · cases refused
      · cases refused

theorem null_of_finish (failed : (ensureDirectories.finish tree path).2 = .error fault)
    (null : fault.kind = .nullInPath) : 0 ∈ path := by
  rw [ensureDirectories.finish] at failed
  split at failed
  · cases failed
  · rename_i refused
    cases failed
    exact null_of_ensureDirectory refused null

theorem null_of_ensureDirectories {rounds : Nat}
    (failed : (ensureDirectories rounds tree path).2 = .error fault)
    (null : fault.kind = .nullInPath) : 0 ∈ path := by
  induction rounds generalizing tree path with
  | zero =>
      cases failed
      cases null
  | succ rounds ih =>
      rw [ensureDirectories] at failed
      simp only at failed
      split at failed
      · exact null_of_finish failed null
      · split at failed
        · split at failed
          · cases failed
          · exact null_of_finish failed null
        · rename_i made
          split at failed
          · split at failed
            · cases failed
            · exact null_of_finish failed null
          · cases failed
            exact parent_subset path (ih (congrArg Prod.snd made))

/-- No directory is refused for a code point of zero that its path does not hold. -/
theorem null_of_makeDirectories (failed : (tree.makeDirectories path).2 = .error fault)
    (null : fault.kind = .nullInPath) : 0 ∈ path :=
  null_of_ensureDirectories failed null

/-- No file is refused for a code point of zero that its path does not hold. -/
theorem null_of_writeFile {content : Text} (failed : tree.writeFile path content = .error fault)
    (null : fault.kind = .nullInPath) : 0 ∈ path := by
  rw [writeFile] at failed
  split at failed
  · rename_i found
    cases failed
    obtain rfl := null
    exact locate_eq_nullInPath_iff.mp found
  · cases failed
    cases null
  · cases failed
  · cases failed

end FileTree

end SocialMigration
