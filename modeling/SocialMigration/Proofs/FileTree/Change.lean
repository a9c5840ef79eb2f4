import Mathlib.Data.List.TakeWhile
import SocialMigration.Proofs.FileTree.Prune

/-!
# What a change leaves as it was

Making directories lets a tree grow: some directories are new, and nothing else is different, also
if not all of them could be made. Writing a file puts one entry where the path leads, a file or a
free name. So what stands elsewhere stays, and paths go on leading where they led.
-/

namespace SocialMigration

namespace FileTree

/-- The trail of a place. -/
def Place.trail : Place → Trail
  | .taken trail _ => trail
  | .free trail => trail

/-- A file can be put where nothing is yet and in the place of what is no directory. -/
def Place.IsOpen (there : Place) : Prop :=
  ∀ trail, there ≠ .taken trail .directory

theorem Place.isOpen_free (trail : Trail) : (Place.free trail).IsOpen := by
  simp [IsOpen]

theorem Place.isOpen_file (trail : Trail) (content : Text) :
    (Place.taken trail (.file content)).IsOpen := by
  simp [IsOpen]

variable {tree other third : FileTree} {purpose : Purpose} {links left rounds : Nat}
  {here trail place : Trail} {there : Place} {names : List Text}
  {base name path content : Text} {entry : Entry}

/-! ## One entry -/

theorem entry?_put (below : trail ≠ []) (entry : Entry) (place : Trail) :
    FileTree.entry? (tree.put trail entry) place =
      if place = trail then some entry else tree.entry? place := by
  rw [FileTree.entry?, FileTree.entry?, put, List.lookup_append,
    lookup_filter_key (fun other => other != trail)]
  by_cases same : place = trail
  · subst same
    simp [below]
  · by_cases root : place = []
    · simp [root, below.symm]
    · have differs : (place == trail) = false := by simpa using same
      simp [same, root, List.lookup_cons, differs]

/-- A free name is below the root, and nothing stands there. -/
theorem free_of_walk (arrives : tree.walk purpose links here names = .ok (.free trail)) :
    trail ≠ [] ∧ tree.entry? trail = none := by
  fun_induction walk tree purpose links here names with
  | case6 links here name rest _ _ _ _ there free =>
      rw [placeOfFree] at arrives
      split at arrives
      · obtain rfl := Place.free.inj (Except.ok.inj arrives)
        exact ⟨by simp [there], free⟩
      · cases arrives
  | _ => simp_all

/-! ## Growth -/

/-- A tree has grown into another: some directories are new, and nothing else is different. -/
structure Grows (tree other : FileTree) : Prop where
  working : other.working = tree.working
  entry : ∀ place, other.entry? place = tree.entry? place ∨
    tree.entry? place = none ∧ other.entry? place = some .directory

namespace Grows

theorem refl (tree : FileTree) : Grows tree tree :=
  ⟨rfl, fun _ => .inl rfl⟩

theorem trans (first : Grows tree other) (second : Grows other third) : Grows tree third where
  working := second.working.trans first.working
  entry place := by
    rcases first.entry place with same | ⟨none, new⟩
    · rw [← same]
      exact second.entry place
    · rcases second.entry place with same | ⟨none', -⟩
      · exact .inr ⟨none, same.trans new⟩
      · exact nomatch new.symm.trans none'

theorem kept (grows : Grows tree other) (inside : tree.entry? place = some entry) :
    other.entry? place = some entry := by
  rcases grows.entry place with same | ⟨none, -⟩
  · exact same.trans inside
  · exact nomatch none.symm.trans inside

/-- What is no directory has been there before. -/
theorem was (grows : Grows tree other) (inside : other.entry? place = some entry)
    (other : entry ≠ .directory) : tree.entry? place = some entry := by
  rcases grows.entry place with same | ⟨-, new⟩
  · exact same.symm.trans inside
  · exact absurd (Option.some.inj (inside.symm.trans new)) other

theorem enters (grows : Grows tree other) (enters : Enters tree base left trail) :
    Enters other base left trail :=
  enters.mono grows.working fun _ _ _ => grows.kept

end Grows

theorem grows_put (below : trail ≠ []) (free : tree.entry? trail = none) :
    Grows tree (tree.put trail .directory) where
  working := rfl
  entry place := by
    rw [entry?_put below]
    by_cases same : place = trail
    · subst same
      exact .inr ⟨free, if_pos rfl⟩
    · exact .inl (if_neg same)

theorem makeDirectory_eq_ok_iff :
    tree.makeDirectory path = .ok other ↔
      ∃ trail, tree.locate .itself path = .ok (.free trail) ∧
        other = tree.put trail .directory := by
  rw [makeDirectory]
  rcases tree.locate .itself path with kind | place | place <;> simp [eq_comm]

theorem ensureDirectory_eq_ok_iff :
    tree.ensureDirectory path = .ok other ↔
      tree.makeDirectory path = .ok other ∨
        (∃ kind, tree.makeDirectory path = .error kind) ∧ tree.isDirectory path = true ∧
          other = tree := by
  rw [ensureDirectory]
  rcases tree.makeDirectory path with kind | made
  · cases tree.isDirectory path <;> simp [eq_comm]
  · simp

theorem grows_ensureDirectory (made : tree.ensureDirectory path = .ok other) :
    Grows tree other := by
  rcases ensureDirectory_eq_ok_iff.mp made with made | ⟨-, -, rfl⟩
  · rcases makeDirectory_eq_ok_iff.mp made with ⟨trail, located, rfl⟩
    rcases walk_of_locate located with ⟨-, -, -, arrives⟩
    rcases free_of_walk arrives with ⟨below, free⟩
    exact grows_put below free
  · exact .refl _

theorem grows_finish (tree : FileTree) (path : Text) :
    Grows tree (ensureDirectories.finish tree path).1 := by
  rw [ensureDirectories.finish]
  split
  · rename_i made
    exact grows_ensureDirectory made
  · exact .refl _

/-- A tree has grown when directories have been made, whether or not that came to its end. -/
theorem grows_ensureDirectories (rounds : Nat) (tree : FileTree) (path : Text) :
    Grows tree (ensureDirectories rounds tree path).1 := by
  induction rounds generalizing tree path with
  | zero => exact .refl _
  | succ rounds ih =>
      have up := ih tree (parentAndName path).1
      rw [ensureDirectories]
      simp only
      split
      · exact grows_finish tree path
      · split
        · rename_i grown made
          rw [made] at up
          split
          · exact up
          · exact up.trans (grows_finish grown path)
        · rename_i grown fault made
          rw [made] at up
          split
          · split
            · exact up
            · exact up.trans (grows_finish grown path)
          · exact up

theorem grows_makeDirectories (tree : FileTree) (path : Text) :
    Grows tree (tree.makeDirectories path).1 :=
  grows_ensureDirectories _ tree path

/-! ## The directory at a joined path -/

theorem withoutSlashes_append (path : Text) :
    ∃ count, path = withoutSlashes path ++ List.replicate count 0x2F := by
  have split := List.takeWhile_append_dropWhile (p := (· == (0x2F : CodePoint))) (l := path.reverse)
  have slashes : path.reverse.takeWhile (· == 0x2F) =
      List.replicate (path.reverse.takeWhile (· == 0x2F)).length 0x2F := by
    refine List.eq_replicate_iff.mpr ⟨rfl, fun c inside => ?_⟩
    simpa using List.mem_takeWhile_imp inside
  refine ⟨(path.reverse.takeWhile (· == 0x2F)).length, ?_⟩
  rw [withoutSlashes, ← List.reverse_replicate, ← slashes, ← List.reverse_append, split,
    List.reverse_reverse]

/-- A path is cut at its last slash. -/
theorem parentAndName_append {front : Text} (part : IsPart name)
    (ends : front = [] ∨ front.getLast? = some 0x2F) :
    parentAndName (front ++ name) =
      (if front.all (· == 0x2F) then front else withoutSlashes front, name) := by
  have noSlash : ∀ c ∈ name.reverse, (c != 0x2F) = true := by
    intro c inside
    have other : c ≠ 0x2F := fun slash => part.noSlash (slash ▸ List.mem_reverse.mp inside)
    simpa using other
  have stop : front.reverse.takeWhile (· != 0x2F) = [] := by
    rcases ends with rfl | slash
    · rfl
    · rcases List.getLast?_eq_some_iff.mp slash with ⟨front, rfl⟩
      simp
  have split : splitPath (front ++ name) =
      (if front.all (· == 0x2F) then front else withoutSlashes front, name) := by
    rw [splitPath]
    simp only [List.reverse_append, List.takeWhile_append_of_pos noSlash, stop, List.append_nil,
      List.reverse_reverse, List.length_append, Nat.add_sub_cancel, List.take_left]
    split <;> rfl
  rw [parentAndName, split]
  split
  · rename_i none
    exact absurd (congrArg Prod.snd none) part.ne_nil
  · rfl

/-- A joined path is cut again at its last name. What comes before has fewer slashes at most. -/
theorem parentAndName_joinPath (part : IsPart name) (base : Text) :
    ∃ parent count, parentAndName (joinPath base name) = (parent, name) ∧
      base = parent ++ List.replicate count 0x2F ∧ (parent = [] → base = []) := by
  rcases withoutSlashes_append base with ⟨count, slashes⟩
  have mixed (other : base.all (· == 0x2F) = false) : withoutSlashes base = [] → base = [] := by
    intro none
    rw [none, List.nil_append] at slashes
    rw [slashes, List.all_replicate] at other
    simp at other
  rw [joinPath, if_neg (by simp [part.not_absolute])]
  split
  · rename_i ends
    rw [parentAndName_append part (by simpa using ends)]
    cases all : base.all (· == 0x2F) with
    | true => exact ⟨base, 0, rfl, by simp, id⟩
    | false => exact ⟨_, count, rfl, slashes, mixed all⟩
  · rename_i ends
    simp only [Bool.or_eq_true, List.isEmpty_iff, beq_iff_eq, not_or] at ends
    have other : base.all (· == 0x2F) = false := by
      by_contra all
      rw [Bool.not_eq_false, List.all_eq_true] at all
      have last := all _ (List.getLast_mem ends.1)
      exact ends.2 (by rw [List.getLast?_eq_some_getLast ends.1, beq_iff_eq.mp last])
    have shorter : withoutSlashes (base ++ [0x2F]) = withoutSlashes base := by
      simp [withoutSlashes]
    refine ⟨withoutSlashes base, count, ?_, slashes, mixed other⟩
    rw [parentAndName_append part (.inr (by simp)), shorter]
    simp [other]

/-- When directories have been made, the last was made or found in a tree with those before it. -/
theorem ensureDirectory_of_makeDirectories (solid : (parentAndName path).2 ≠ [0x2E])
    (made : tree.makeDirectories path = (other, .ok ())) :
    ∃ grown, Grows tree grown ∧ grown.ensureDirectory path = .ok other := by
  have finish {grown : FileTree} (made : ensureDirectories.finish grown path = (other, .ok ())) :
      grown.ensureDirectory path = .ok other := by
    rw [ensureDirectories.finish] at made
    split at made
    · rename_i ensured
      cases made
      exact ensured
    · cases made
  rw [makeDirectories, ensureDirectories] at made
  simp only [beq_iff_eq, solid, if_false] at made
  split at made
  · exact ⟨tree, .refl tree, finish made⟩
  · have up := grows_ensureDirectories path.length tree (parentAndName path).1
    split at made
    · rename_i grown ended
      rw [ended] at up
      exact ⟨grown, up, finish made⟩
    · rename_i grown fault ended
      rw [ended] at up
      split at made
      · exact ⟨grown, up, finish made⟩
      · cases made

/-- A path to a directory, continued by a name that is a directory there or a link to one. -/
structure Holds (tree : FileTree) (base name : Text) (left : Nat) (trail : Trail) : Prop where
  enters : Enters tree base left trail
  down : LeadsDown name
  noNull : 0 ∉ joinPath base name
  short : isTooLong (joinPath base name) = false
  inside : tree.entry? (trail ++ [name]) = some .directory ∨
    ∃ target, tree.entry? (trail ++ [name]) = some (.link target)

/-- A directory that has been ensured is where its path leads. -/
theorem holds_of_ensureDirectory (part : IsPart name)
    (ensured : tree.ensureDirectory (joinPath base name) = .ok other) :
    ∃ left trail, Holds other base name left trail := by
  rcases ensureDirectory_eq_ok_iff.mp ensured with made | ⟨-, found, rfl⟩
  · rcases makeDirectory_eq_ok_iff.mp made with ⟨there, located, rfl⟩
    rcases walk_of_locate located with ⟨noNull, -, short, -⟩
    rcases enters_of_locate part located with ⟨left, trail, enters, arrives⟩
    have down := part.leadsDown_of_walk arrives
    rw [walk_singleton down (.inl rfl), placeAt] at arrives
    split at arrives
    · cases arrives
    · rename_i free
      obtain rfl := Place.free.inj (Except.ok.inj arrives)
      have below : trail ++ [name] ≠ [] := by simp
      exact ⟨left, trail, (grows_put below free).enters enters, down, noNull, short,
        .inl (by rw [entry?_put below, if_pos rfl])⟩
  · rcases isDirectory_iff.mp found with ⟨there, found⟩
    have located := found?_eq_some_iff.mp found
    rcases walk_of_locate located with ⟨noNull, -, short, -⟩
    rcases enters_of_locate part located with ⟨left, trail, enters, arrives⟩
    have down := part.leadsDown_of_walk arrives
    refine ⟨left, trail, enters, down, noNull, short, ?_⟩
    rw [walk_down down rfl] at arrives
    cases inside : other.entry? (trail ++ [name]) with
    | none => simp [inside, placeOfFree] at arrives
    | some entry =>
        cases entry with
        | directory => exact .inl rfl
        | file content => simp [inside] at arrives
        | link target => exact .inr ⟨target, rfl⟩

theorem isTooLong_of_append {rest : Text} (short : isTooLong (path ++ rest) = false) :
    isTooLong path = false := by
  rw [isTooLong, decide_eq_false_iff_not] at short ⊢
  rw [Utf8.encode, List.flatMap_append, List.length_append] at short
  rw [Utf8.encode]
  omega

/-- The directory of a joined path is found if its front leads to a directory. -/
theorem Enters.exists?_parent (enters : Enters tree base left trail) (part : IsPart name)
    (noNull : 0 ∉ joinPath base name) (short : isTooLong (joinPath base name) = false) :
    ∃ parent, parentAndName (joinPath base name) = (parent, name) ∧
      (parent = [] ∨ tree.exists? parent = true) := by
  rcases parentAndName_joinPath part base with ⟨parent, count, cut, rfl, -⟩
  refine ⟨parent, cut, ?_⟩
  by_cases filled : parent = []
  · exact .inl filled
  · rcases part.joinPath_eq (parent ++ List.replicate count 0x2F) with ⟨rest, same⟩
    rw [same, List.append_assoc] at short noNull
    have enters' := (enters_slashes_iff filled count).mp enters
    have noNull' : 0 ∉ parent := fun inside => noNull (List.mem_append_left _ inside)
    rw [exists?, enters'.found?_eq noNull' filled (isTooLong_of_append short)]
    exact .inr rfl

/-- A directory that is there already is not made again. -/
theorem Holds.makeDirectories (holds : Holds tree base name left trail) (part : IsPart name)
    (inside : tree.entry? (trail ++ [name]) = some .directory) :
    tree.makeDirectories (joinPath base name) = (tree, .ok ()) := by
  have located (purpose : Purpose) : tree.locate purpose (joinPath base name) =
      .ok (.taken (trail ++ [name]) .directory) := by
    rw [holds.enters.locate_joinPath part holds.noNull holds.short,
      walk_singleton holds.down (.inr (by simp [inside])), placeAt, inside]
  have found : tree.isDirectory (joinPath base name) = true :=
    isDirectory_iff.mpr ⟨_, found?_eq_some_iff.mpr (located .target)⟩
  have finish : ensureDirectories.finish tree (joinPath base name) = (tree, .ok ()) := by
    rw [ensureDirectories.finish, ensureDirectory, makeDirectory, located .itself]
    simp only [found, if_true]
  rcases holds.enters.exists?_parent part holds.noNull holds.short with ⟨parent, cut, there⟩
  rw [FileTree.makeDirectories, ensureDirectories, cut]
  simp only
  rw [if_pos (by simpa [part.ne_nil] using there), finish]

/-! ## What is written -/

/-- A walk that ends at anything but a directory has come across it. -/
theorem entry?_of_walk (arrives : tree.walk purpose links here names = .ok (.taken trail entry))
    (solid : entry ≠ .directory) : tree.entry? trail = some entry := by
  fun_induction walk tree purpose links here names with
  | case1 links here =>
      obtain ⟨rfl, ends⟩ := Place.taken.inj (Except.ok.inj arrives)
      cases inside : tree.entry? here with
      | none => simp [inside] at ends; exact absurd ends.symm solid
      | some old => simpa [inside] using ends
  | case6 =>
      rw [placeOfFree] at arrives
      split at arrives <;> cases arrives
  | case8 | case10 =>
      obtain ⟨rfl, rfl⟩ := Place.taken.inj (Except.ok.inj arrives)
      assumption
  | case2 | case3 | case7 | case12 => simp_all
  | case4 | case5 | case9 | case11 => cases arrives

/-- A link that a walk does not follow is that of the directory where it is, or of one above. -/
theorem prefix_of_walk (followed : purpose ≠ .itself) {target : Text}
    (arrives : tree.walk purpose links here names = .ok (.taken trail (.link target))) :
    trail <+: here := by
  have ends : tree.entry? trail = some (.link target) := entry?_of_walk arrives (by simp)
  fun_induction walk tree purpose links here names with
  | case1 links here =>
      obtain ⟨rfl, -⟩ := Place.taken.inj (Except.ok.inj arrives)
      exact List.prefix_rfl
  | case2 links here name rest _ ih => exact ih arrives
  | case3 links here name rest _ _ ih => exact (ih arrives).trans (List.dropLast_prefix here)
  | case6 =>
      rw [placeOfFree] at arrives
      split at arrives <;> cases arrives
  | case7 links here name rest _ _ _ _ there inside ih =>
      rcases List.prefix_concat_iff.mp (ih arrives) with same | above
      · rw [same] at ends
        cases inside.symm.trans ends
      · exact above
  | case8 => cases (Place.taken.inj (Except.ok.inj arrives)).2
  | case10 => simp_all
  | case12 here name rest _ _ _ _ there old inside _ links start ih =>
      have above := ih arrives
      rw [show start = if isAbsolute old then [] else here from rfl] at above
      split at above
      · rw [List.prefix_nil.mp above] at ends
        cases ends
      · exact above
  | case4 | case5 | case9 | case11 => cases arrives

theorem Place.IsOpen.not_directory (opens : there.IsOpen)
    (arrives : tree.walk purpose links here names = .ok there) :
    tree.entry? there.trail ≠ some .directory := by
  cases there with
  | free trail => simp [Place.trail, (free_of_walk arrives).2]
  | taken trail entry =>
      have solid : entry ≠ .directory := fun same => opens trail (same ▸ rfl)
      rw [Place.trail, entry?_of_walk arrives solid]
      exact fun same => solid (Option.some.inj same)

/-- No link is replaced that is followed on the way to it. -/
theorem Place.IsOpen.prefix_of_link (opens : there.IsOpen) (followed : purpose ≠ .itself)
    (arrives : tree.walk purpose links here names = .ok there) {target : Text}
    (inside : tree.entry? there.trail = some (.link target)) : there.trail <+: here := by
  cases there with
  | free trail => exact nomatch (free_of_walk arrives).2.symm.trans inside
  | taken trail entry =>
      have solid : entry ≠ .directory := fun same => opens trail (same ▸ rfl)
      cases (entry?_of_walk arrives solid).symm.trans inside
      exact prefix_of_walk followed arrives

/-- A file that is put where a walk leads is found by the same walk. -/
theorem walk_put (opens : there.IsOpen)
    (arrives : tree.walk .writing links here names = .ok there) (content : Text) :
    (tree.put there.trail (.file content)).walk .target links here names =
      .ok (.taken there.trail (.file content)) := by
  have solid := opens.not_directory arrives
  have below : there.trail ≠ [] := by
    intro root
    rw [root] at solid
    exact solid rfl
  have ends {links : Nat} {here : Trail} {name : Text} (down : LeadsDown name)
      (last : there.trail = here ++ [name]) :
      (tree.put there.trail (.file content)).walk .target links here [name] =
        .ok (.taken there.trail (.file content)) := by
    rw [walk_down down rfl, ← last, entry?_put below, if_pos rfl]
    rfl
  fun_induction walk tree .writing links here names with
  | case1 links here =>
      obtain rfl := Except.ok.inj arrives
      rw [Place.trail] at below
      rw [walk, Place.trail, entry?_put below, if_pos rfl]
      rfl
  | case2 links here name rest void ih =>
      rw [walk, if_pos void, ih arrives]
  | case3 links here name rest somewhere parent ih =>
      rw [walk, if_neg somewhere, if_pos parent, ih arrives]
  | case6 links here name rest somewhere other _ short next free =>
      rw [placeOfFree] at arrives
      split at arrives
      · rename_i last
        obtain rfl : rest = [] := by simpa using last
        exact ends (leadsDown_of_not somewhere other short) (Except.ok.inj arrives ▸ rfl)
      · cases arrives
  | case7 links here name rest somewhere other _ short next inside ih =>
      have apart : here ++ [name] ≠ there.trail := fun same => solid (same ▸ inside)
      rw [walk_directory (leadsDown_of_not somewhere other short) rfl, ih arrives]
      rw [entry?_put below, if_neg apart, inside]
  | case8 links here name rest somewhere other _ short next old inside last =>
      obtain rfl : rest = [] := by simpa using last
      exact ends (leadsDown_of_not somewhere other short) (Except.ok.inj arrives ▸ rfl)
  | case10 => simp_all
  | case12 here name rest somewhere other _ short next target inside _ links start ih =>
      have apart : here ++ [name] ≠ there.trail := by
        intro same
        have replaced : tree.entry? there.trail = some (.link target) := by rw [← same, inside]
        have under := (opens.prefix_of_link (by simp) arrives replaced).length_le
        simp only [← same, start, List.length_append, List.length_singleton] at under
        split at under
        · simp at under
        · omega
      have inside' : FileTree.entry? (tree.put there.trail (.file content)) (here ++ [name]) =
          some (.link target) := by
        rw [entry?_put below, if_neg apart, inside]
      rw [walk_link (leadsDown_of_not somewhere other short) rfl (by simp) inside']
      exact ih arrives
  | case4 | case5 | case9 | case11 => cases arrives

/-- A file that is put where neither a directory nor a link is cuts no path. -/
theorem Enters.put (enters : Enters tree base left trail) (below : place ≠ [])
    (solid : tree.entry? place ≠ some .directory)
    (direct : ∀ target, tree.entry? place ≠ some (.link target)) (content : Text) :
    Enters (tree.put place (.file content)) base left trail := by
  refine enters.mono rfl fun other entry noFile inside => ?_
  rw [entry?_put below, if_neg, inside]
  rintro rfl
  cases entry with
  | file old => exact noFile old rfl
  | directory => exact solid inside
  | link target => exact direct target inside

@[simp] theorem trail_placeAt (tree : FileTree) (trail : Trail) :
    (tree.placeAt trail).trail = trail := by
  rw [placeAt]
  split <;> rfl

theorem writeFile_eq_ok_iff :
    tree.writeFile path content = .ok other ↔
      ∃ there : Place, tree.locate .writing path = .ok there ∧ there.IsOpen ∧
        other = tree.put there.trail (.file content) := by
  rw [writeFile]
  rcases tree.locate .writing path with kind | ⟨trail, _ | _ | _⟩ | trail <;>
    simp [Place.IsOpen, Place.trail, eq_comm]

/-- What is written is read back. -/
theorem content?_writeFile (written : tree.writeFile path content = .ok other) :
    other.content? path = some content := by
  rcases writeFile_eq_ok_iff.mp written with ⟨there, located, opens, rfl⟩
  rcases walk_of_locate located with ⟨noNull, filled, short, arrives⟩
  have found : (tree.put there.trail (.file content)).found? path =
      some (there.trail, .file content) := by
    rw [found?_eq_some_iff, locate_eq_walk noNull filled short]
    exact walk_put opens arrives content
  rw [content?, found]

end FileTree

end SocialMigration
