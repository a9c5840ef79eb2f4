import Mathlib.Data.List.Basic
import SocialMigration.Proofs.FileTree.Faults

/-!
# Where the path of an entry leads

A path that leads to a directory, continued by the name of one of its entries, leads to that entry:
the walk along the longer path first does what the walk along the shorter one does. A walk that
succeeds asks for nothing but the entries it comes across, so it goes the same way in every tree
that has them.
-/

namespace SocialMigration

namespace FileTree

/-- A name that leads from a directory to an entry of it. -/
structure LeadsDown (name : Text) : Prop where
  somewhere : leadsNowhere name = false
  notParent : (name == [0x2E, 0x2E]) = false
  short : (Utf8.encode name).length ≤ nameLimit

theorem leadsDown_of_not {name : Text} (somewhere : ¬leadsNowhere name = true)
    (other : ¬(name == [0x2E, 0x2E]) = true) (short : ¬nameLimit < (Utf8.encode name).length) :
    LeadsDown name :=
  ⟨by simpa using somewhere, by simpa using other, Nat.not_lt.mp short⟩

theorem LeadsDown.ne_nil {name : Text} (down : LeadsDown name) : name ≠ [] := by
  rintro rfl
  exact absurd down.somewhere (by decide)

/-- A name that an entry can have. -/
structure IsName (name : Text) : Prop extends LeadsDown name where
  noSlash : 0x2F ∉ name
  noNull : 0 ∉ name

instance {name : Text} : Decidable (IsName name) :=
  decidable_of_iff
    (leadsNowhere name = false ∧ (name == [0x2E, 0x2E]) = false ∧
      (Utf8.encode name).length ≤ nameLimit ∧ 0x2F ∉ name ∧ 0 ∉ name)
    ⟨fun ⟨somewhere, notParent, short, noSlash, noNull⟩ =>
      ⟨⟨somewhere, notParent, short⟩, noSlash, noNull⟩,
      fun named => ⟨named.somewhere, named.notParent, named.short, named.noSlash, named.noNull⟩⟩

/-- A name that, joined to the path of a directory, leads to an entry of it if it is not too
long. -/
structure IsPart (name : Text) : Prop where
  somewhere : leadsNowhere name = false
  notParent : (name == [0x2E, 0x2E]) = false
  noSlash : 0x2F ∉ name

theorem IsPart.ne_nil {name : Text} (part : IsPart name) : name ≠ [] := by
  rintro rfl
  exact absurd part.somewhere (by decide)

theorem IsPart.not_absolute {name : Text} (part : IsPart name) : isAbsolute name = false := by
  cases name with
  | nil => rfl
  | cons c rest =>
      have other : c ≠ 0x2F := fun same => part.noSlash (same ▸ List.mem_cons_self)
      simpa [isAbsolute] using other

theorem IsName.isPart {name : Text} (named : IsName name) : IsPart name :=
  ⟨named.somewhere, named.notParent, named.noSlash⟩

variable {tree other : FileTree} {purpose : Purpose} {links left : Nat} {here trail : Trail}
  {names rest : List Text} {base name last target path : Text} {entry : Entry}

/-! ## The names of a path -/

theorem go_append_slash (front part rest : Text) :
    pathParts.go part (front ++ 0x2F :: rest) =
      pathParts.go part front ++ pathParts.go [] rest := by
  induction front generalizing part with
  | nil => rfl
  | cons c front ih =>
      simp only [List.cons_append, pathParts.go]
      split <;> simp [ih]

theorem go_of_noSlash {part rest : Text} (noSlash : 0x2F ∉ rest) :
    pathParts.go part rest = [part.reverse ++ rest] := by
  induction rest generalizing part with
  | nil => simp [pathParts.go]
  | cons c rest ih =>
      rw [List.mem_cons, not_or] at noSlash
      rw [pathParts.go, if_neg (by simpa using Ne.symm noSlash.1), ih noSlash.2]
      simp

theorem pathParts_append_slash (front : Text) (noSlash : 0x2F ∉ name) :
    pathParts (front ++ 0x2F :: name) = pathParts front ++ [name] := by
  rw [pathParts, go_append_slash, go_of_noSlash noSlash]
  rfl

/-! ## Walks -/

/-- Names behind others have no slash at the end if they have none on their own. -/
theorem unslashed_append (front : List Text)
    (unslashed : (purpose == .writing && isFinalSlash (last :: rest)) = false) :
    (purpose == .writing && isFinalSlash (front ++ last :: rest)) = false := by
  cases purpose <;> simp_all [isFinalSlash]

/-- A walk goes by the entry of a name that leads down, unless it writes where a slash asks for a
directory. -/
theorem walk_down (down : LeadsDown name)
    (unslashed : (purpose == .writing && isFinalSlash rest) = false) :
    tree.walk purpose links here (name :: rest) =
      match tree.entry? (here ++ [name]) with
      | none => placeOfFree purpose (here ++ [name]) rest
      | some .directory => tree.walk purpose links (here ++ [name]) rest
      | some (.file content) =>
        if rest.isEmpty then .ok (.taken (here ++ [name]) (.file content))
        else .error .notADirectory
      | some (.link target) =>
        if rest.isEmpty && purpose == .itself then .ok (.taken (here ++ [name]) (.link target))
        else
          match links with
          | 0 => .error .tooManyLinks
          | links + 1 =>
            tree.walk purpose links (if isAbsolute target then [] else here)
              (pathParts target ++ rest) := by
  have short := down.short
  rewrite [walk, if_neg (by simp [down.somewhere]), if_neg (by simp [down.notParent]),
    if_neg (by simp [unslashed]), if_neg (by omega)]
  rfl

theorem walk_directory (down : LeadsDown name)
    (unslashed : (purpose == .writing && isFinalSlash rest) = false)
    (inside : tree.entry? (here ++ [name]) = some .directory) :
    tree.walk purpose links here (name :: rest) =
      tree.walk purpose links (here ++ [name]) rest := by
  rw [walk_down down unslashed, inside]

theorem walk_link (down : LeadsDown name)
    (unslashed : (purpose == .writing && isFinalSlash rest) = false)
    (followed : (rest.isEmpty && purpose == .itself) = false)
    (inside : tree.entry? (here ++ [name]) = some (.link target)) :
    tree.walk purpose (links + 1) here (name :: rest) =
      tree.walk purpose links (if isAbsolute target then [] else here)
        (pathParts target ++ rest) := by
  rw [walk_down down unslashed, inside]
  simp [followed]

/-- The names on the way to a directory: each leads nowhere, up, down, or along a link, and of links
some more may be followed in the end. -/
inductive Leads (tree : FileTree) : Nat → Trail → List Text → Nat → Trail → Prop where
  | here {links : Nat} {here : Trail} : Leads tree links here [] links here
  | nowhere {links left : Nat} {here trail : Trail} {name : Text} {rest : List Text}
      (void : leadsNowhere name = true) (behind : Leads tree links here rest left trail) :
      Leads tree links here (name :: rest) left trail
  | up {links left : Nat} {here trail : Trail} {rest : List Text}
      (behind : Leads tree links here.dropLast rest left trail) :
      Leads tree links here ([0x2E, 0x2E] :: rest) left trail
  | down {links left : Nat} {here trail : Trail} {name : Text} {rest : List Text}
      (down : LeadsDown name) (inside : tree.entry? (here ++ [name]) = some .directory)
      (behind : Leads tree links (here ++ [name]) rest left trail) :
      Leads tree links here (name :: rest) left trail
  | along {links left : Nat} {here trail : Trail} {name target : Text} {rest : List Text}
      (down : LeadsDown name) (inside : tree.entry? (here ++ [name]) = some (.link target))
      (behind : Leads tree links (if isAbsolute target then [] else here) (pathParts target ++ rest)
        left trail) :
      Leads tree (links + 1) here (name :: rest) left trail

/-- A walk to a directory goes along names that lead to it. -/
theorem leads_of_walk
    (arrives : tree.walk .target links here names = .ok (.taken trail .directory)) :
    (tree.entry? trail).getD .directory = .directory ∧
      ∃ left, Leads tree links here names left trail := by
  fun_induction walk tree .target links here names with
  | case1 links here =>
      obtain ⟨rfl, ends⟩ := Place.taken.inj (Except.ok.inj arrives)
      exact ⟨ends, links, .here⟩
  | case2 links here name rest void ih =>
      rcases ih arrives with ⟨ends, left, leads⟩
      exact ⟨ends, left, .nowhere void leads⟩
  | case3 links here name rest somewhere parent ih =>
      rcases ih arrives with ⟨ends, left, leads⟩
      rw [beq_iff_eq] at parent
      exact ⟨ends, left, parent ▸ .up leads⟩
  | case6 links here name rest =>
      rw [placeOfFree] at arrives
      split at arrives <;> cases arrives
  | case7 links here name rest somewhere other _ short there inside ih =>
      rcases ih arrives with ⟨ends, left, leads⟩
      have down : LeadsDown name := leadsDown_of_not somewhere other short
      exact ⟨ends, left, .down down inside leads⟩
  | case12 here name rest somewhere other _ short there target inside _ links start ih =>
      rcases ih arrives with ⟨ends, left, leads⟩
      have down : LeadsDown name := leadsDown_of_not somewhere other short
      exact ⟨ends, left, .along down inside leads⟩
  | case8 | case10 =>
      have same := (Place.taken.inj (Except.ok.inj arrives)).2
      cases same
  | case4 | case5 | case9 | case11 => cases arrives

/-- A walk goes where names lead. -/
theorem Leads.walk_eq (leads : Leads tree links here names left trail) :
    tree.walk .target links here names =
      .ok (.taken trail ((tree.entry? trail).getD .directory)) := by
  induction leads with
  | here => rw [walk]
  | nowhere void _ ih => rw [walk, if_pos void, ih]
  | up _ ih => rw [walk, if_neg (by decide), if_pos (by decide), ih]
  | down down inside _ ih => rw [walk_directory down rfl inside, ih]
  | along down inside _ ih => rw [walk_link down rfl (by simp) inside, ih]

/-- A walk goes on where the names in front lead. -/
theorem Leads.walk_append (leads : Leads tree links here names left trail)
    (unslashed : (purpose == .writing && isFinalSlash (last :: rest)) = false) :
    tree.walk purpose links here (names ++ last :: rest) =
      tree.walk purpose left trail (last :: rest) := by
  induction leads with
  | here => rfl
  | nowhere void _ ih => rw [List.cons_append, walk, if_pos void, ih]
  | up _ ih => rw [List.cons_append, walk, if_neg (by decide), if_pos (by decide), ih]
  | down down inside _ ih =>
      rw [List.cons_append, walk_directory down (unslashed_append _ unslashed) inside, ih]
  | along down inside _ ih =>
      rw [List.cons_append, walk_link down (unslashed_append _ unslashed) (by simp) inside,
        ← List.append_assoc, ih]

theorem Leads.append {right : Nat} {there : Trail}
    (leads : Leads tree links here names left trail)
    (behind : Leads tree left trail rest right there) :
    Leads tree links here (names ++ rest) right there := by
  induction leads with
  | here => exact behind
  | nowhere void _ ih => exact .nowhere void (ih behind)
  | up _ ih => exact .up (ih behind)
  | down down inside _ ih => exact .down down inside (ih behind)
  | along down inside _ ih => exact .along down inside (List.append_assoc .. ▸ ih behind)

/-- Names lead to one place only. -/
theorem Leads.unique {right : Nat} {there : Trail}
    (leads : Leads tree links here names left trail)
    (leads' : Leads tree links here names right there) : left = right ∧ trail = there := by
  have parent : ¬LeadsDown [0x2E, 0x2E] := fun down => absurd down.notParent (by decide)
  induction leads with
  | here => cases leads' with | here => exact ⟨rfl, rfl⟩
  | nowhere void _ ih =>
      cases leads' with
      | nowhere _ behind => exact ih behind
      | up => exact absurd void (by decide)
      | down down | along down => exact nomatch void.symm.trans down.somewhere
  | up _ ih =>
      cases leads' with
      | nowhere void => exact absurd void (by decide)
      | up behind => exact ih behind
      | down down | along down => exact absurd down parent
  | down down inside _ ih =>
      cases leads' with
      | nowhere void => exact nomatch void.symm.trans down.somewhere
      | up => exact absurd down parent
      | down _ _ behind => exact ih behind
      | along _ inside' => exact nomatch inside.symm.trans inside'
  | along down inside _ ih =>
      cases leads' with
      | nowhere void => exact nomatch void.symm.trans down.somewhere
      | up => exact absurd down parent
      | down _ inside' => exact nomatch inside.symm.trans inside'
      | along _ inside' behind =>
          cases inside.symm.trans inside'
          exact ih behind

/-- The names in front lead to the same place in every tree with the directories and the links on
the way. -/
theorem Leads.mono (leads : Leads tree links here names left trail)
    (holds : ∀ place entry, (∀ content, entry ≠ .file content) → tree.entry? place = some entry →
      other.entry? place = some entry) :
    Leads other links here names left trail := by
  induction leads with
  | here => exact .here
  | nowhere void _ ih => exact .nowhere void ih
  | up _ ih => exact .up ih
  | down down inside _ ih => exact .down down (holds _ _ (by simp) inside) ih
  | along down inside _ ih => exact .along down (holds _ _ (by simp) inside) ih

/-- Names behind which there is a slash lead where they lead without it. -/
theorem Leads.of_append_nil (leads : Leads tree links here (names ++ [[]]) left trail) :
    Leads tree links here names left trail := by
  have inFront : ∀ {names rest : List Text} {name : Text}, name ≠ [] →
      names ++ [[]] = name :: rest → ∃ front, names = name :: front ∧ front ++ [[]] = rest := by
    intro names rest name some same
    cases names with
    | nil => exact absurd (List.cons.inj same).1.symm some
    | cons first front =>
        rcases List.cons.inj same with ⟨rfl, behind⟩
        exact ⟨front, rfl, behind⟩
  generalize same : names ++ [[]] = all at leads
  induction leads generalizing names with
  | here => simp at same
  | nowhere void behind ih =>
      cases names with
      | nil =>
          rcases List.cons.inj same with ⟨-, rfl⟩
          exact behind
      | cons first names =>
          rcases List.cons.inj same with ⟨rfl, tail⟩
          exact .nowhere void (ih tail)
  | up _ ih =>
      rcases inFront (by simp) same with ⟨front, rfl, tail⟩
      exact .up (ih tail)
  | down down inside _ ih =>
      rcases inFront down.ne_nil same with ⟨front, rfl, tail⟩
      exact .down down inside (ih tail)
  | along down inside _ ih =>
      rcases inFront down.ne_nil same with ⟨front, rfl, rfl⟩
      exact .along down inside (ih (List.append_assoc ..))

theorem Leads.append_nil (leads : Leads tree links here names left trail) :
    Leads tree links here (names ++ [[]]) left trail := by
  induction leads with
  | here => exact .nowhere (by decide) .here
  | nowhere void _ ih => exact .nowhere void ih
  | up _ ih => exact .up ih
  | down down inside _ ih => exact .down down inside ih
  | along down inside _ ih => exact .along down inside (List.append_assoc .. ▸ ih)

/-! ## The path of an entry -/

theorem found?_eq_some_iff :
    tree.found? path = some (trail, entry) ↔
      tree.locate .target path = .ok (.taken trail entry) := by
  rw [found?]
  rcases tree.locate .target path with kind | place | place <;> simp

theorem isDirectory_iff :
    tree.isDirectory path = true ↔ ∃ trail, tree.found? path = some (trail, .directory) := by
  rw [isDirectory]
  rcases tree.found? path with _ | ⟨trail, _ | _ | _⟩ <;> simp

theorem locate_eq_walk (noNull : 0 ∉ path) (filled : path ≠ []) (short : isTooLong path = false) :
    tree.locate purpose path =
      tree.walk purpose linkLimit (if isAbsolute path then [] else tree.working)
        (pathParts path) := by
  rw [locate, if_neg (by simpa using noNull), if_neg (by simpa using filled),
    if_neg (by simp [short])]

theorem walk_of_locate {place : Place} (located : tree.locate purpose path = .ok place) :
    0 ∉ path ∧ path ≠ [] ∧ isTooLong path = false ∧
      tree.walk purpose linkLimit (if isAbsolute path then [] else tree.working)
        (pathParts path) = .ok place := by
  rw [locate] at located
  split at located
  · cases located
  · rename_i noNull
    split at located
    · cases located
    · rename_i filled
      split at located
      · cases located
      · rename_i short
        exact ⟨by simpa using noNull, by simpa using filled, by simpa using short, located⟩

/-- Where a path leads to a directory there is one, unless the trail is not in the tree at all. -/
theorem directory_of_found? (found : tree.found? base = some (trail, .directory)) :
    (tree.entry? trail).getD .directory = .directory := by
  rcases walk_of_locate (found?_eq_some_iff.mp found) with ⟨-, -, -, arrives⟩
  exact (leads_of_walk arrives).1

/-- Where the names of a path lead to a directory, with so many links to be followed behind it. The
empty path stands for the working directory. -/
def Enters (tree : FileTree) (base : Text) (left : Nat) (trail : Trail) : Prop :=
  Leads tree linkLimit (if isAbsolute base then [] else tree.working) (pathParts base) left trail

theorem enters_of_found? (found : tree.found? base = some (trail, .directory)) :
    ∃ left, Enters tree base left trail := by
  rcases walk_of_locate (found?_eq_some_iff.mp found) with ⟨-, -, -, arrives⟩
  exact (leads_of_walk arrives).2

theorem Enters.found?_eq (enters : Enters tree base left trail) (noNull : 0 ∉ base)
    (filled : base ≠ []) (short : isTooLong base = false) :
    tree.found? base = some (trail, (tree.entry? trail).getD .directory) := by
  rw [found?_eq_some_iff, locate_eq_walk noNull filled short]
  exact Leads.walk_eq enters

theorem Enters.mono (enters : Enters tree base left trail) (working : other.working = tree.working)
    (holds : ∀ place entry, (∀ content, entry ≠ .file content) → tree.entry? place = some entry →
      other.entry? place = some entry) :
    Enters other base left trail := by
  rw [Enters, working]
  exact Leads.mono enters holds

/-- A path that leads to a directory leads there in every tree with the entries on the way. -/
theorem found?_mono (found : tree.found? base = some (trail, .directory))
    (working : other.working = tree.working)
    (holds : ∀ place entry, tree.entry? place = some entry → other.entry? place = some entry)
    (ends : (other.entry? trail).getD .directory = .directory) :
    other.found? base = some (trail, .directory) := by
  rcases walk_of_locate (found?_eq_some_iff.mp found) with ⟨noNull, filled, short, -⟩
  rcases enters_of_found? found with ⟨left, enters⟩
  have enters' := enters.mono working fun place entry _ => holds place entry
  rw [enters'.found?_eq noNull filled short, ends]

theorem isAbsolute_append (filled : base ≠ []) (rest : Text) :
    isAbsolute (base ++ rest) = isAbsolute base := by
  cases base with
  | nil => exact absurd rfl filled
  | cons c base => rfl

/-- Slashes behind the path of a directory lead nowhere else. -/
theorem enters_slashes_iff (filled : base ≠ []) (count : Nat) :
    Enters tree (base ++ List.replicate count 0x2F) left trail ↔ Enters tree base left trail := by
  rw [Enters, Enters, isAbsolute_append filled]
  induction count with
  | zero => simp
  | succ count ih =>
      rw [List.replicate_succ', ← List.append_assoc, pathParts_append_slash _ (by simp), ← ih]
      exact ⟨Leads.of_append_nil, Leads.append_nil⟩

theorem found?_slashes (found : tree.found? base = some (trail, .directory)) (count : Nat)
    (short : isTooLong (base ++ List.replicate count 0x2F) = false) :
    tree.found? (base ++ List.replicate count 0x2F) = some (trail, .directory) := by
  rcases walk_of_locate (found?_eq_some_iff.mp found) with ⟨noNull, filled, -, -⟩
  rcases enters_of_found? found with ⟨left, enters⟩
  have plain : 0 ∉ base ++ List.replicate count 0x2F := by
    simp [noNull, List.mem_replicate]
  have enters' := (enters_slashes_iff filled count).mpr enters
  rw [enters'.found?_eq plain (by simp [filled]) short, directory_of_found? found]

theorem isAbsolute_joinPath (part : IsPart name) :
    isAbsolute (joinPath base name) = isAbsolute base := by
  rw [joinPath, if_neg (by simp [part.not_absolute])]
  cases base with
  | nil => exact part.not_absolute
  | cons c base => split <;> rfl

theorem IsPart.joinPath_eq (part : IsPart name) (base : Text) :
    ∃ slash, joinPath base name = base ++ (slash ++ name) := by
  rw [joinPath, if_neg (by simp [part.not_absolute])]
  split
  · exact ⟨[], rfl⟩
  · exact ⟨[0x2F], List.append_assoc ..⟩

theorem joinPath_inj {name' : Text} (part : IsPart name) (part' : IsPart name') :
    joinPath base name = joinPath base name' ↔ name = name' := by
  simp only [joinPath, part.not_absolute, part'.not_absolute, Bool.false_eq_true, if_false]
  split <;> simp

/-- The names of a joined path, and those of its front but for a slash at the end of that. -/
theorem pathParts_joinPath (part : IsPart name) (base : Text) :
    ∃ front, pathParts (joinPath base name) = front ++ [name] ∧
      (pathParts base = front ∨ pathParts base = front ++ [[]]) := by
  rw [joinPath, if_neg (by simp [part.not_absolute])]
  by_cases slash : base.getLast? = some 0x2F
  · rw [if_pos (by simp [slash])]
    rcases List.getLast?_eq_some_iff.mp slash with ⟨front, rfl⟩
    refine ⟨pathParts front, ?_, .inr (pathParts_append_slash front (by simp))⟩
    rw [List.append_assoc]
    exact pathParts_append_slash front part.noSlash
  · by_cases empty : base = []
    · subst empty
      exact ⟨[], go_of_noSlash part.noSlash, .inr rfl⟩
    · rw [if_neg (by simp [slash, empty]), List.append_assoc]
      exact ⟨pathParts base, pathParts_append_slash base part.noSlash, .inl rfl⟩

/-- A joined path leads where its last name leads from the directory of its front. -/
theorem Enters.locate_joinPath (enters : Enters tree base left trail) (part : IsPart name)
    (noNull : 0 ∉ joinPath base name) (short : isTooLong (joinPath base name) = false) :
    tree.locate purpose (joinPath base name) = tree.walk purpose left trail [name] := by
  rcases pathParts_joinPath part base with ⟨front, parts, same⟩
  have filled : joinPath base name ≠ [] := by
    intro empty
    rw [empty] at parts
    rcases List.append_eq_singleton_iff.mp parts.symm with ⟨-, last⟩ | ⟨-, last⟩
    · exact part.ne_nil (List.singleton_inj.mp last)
    · cases last
  have leads : Leads tree linkLimit (if isAbsolute base then [] else tree.working) front left
      trail := by
    rcases same with same | same
    · exact same ▸ enters
    · rw [Enters, same] at enters
      exact enters.of_append_nil
  have unslashed : (purpose == .writing && isFinalSlash [name]) = false := by
    simp [isFinalSlash, part.ne_nil]
  rw [locate_eq_walk noNull filled short, parts, isAbsolute_joinPath part,
    leads.walk_append unslashed]

/-- The path of an entry that is a directory leads there. -/
theorem Enters.below (enters : Enters tree base left trail) (down : LeadsDown name)
    (noSlash : 0x2F ∉ name) (inside : tree.entry? (trail ++ [name]) = some .directory) :
    Enters tree (joinPath base name) left (trail ++ [name]) := by
  have part : IsPart name := ⟨down.somewhere, down.notParent, noSlash⟩
  rcases pathParts_joinPath part base with ⟨front, parts, same⟩
  rw [Enters, parts, isAbsolute_joinPath part]
  refine Leads.append ?_ (.down down inside .here)
  rcases same with same | same
  · exact same ▸ enters
  · rw [Enters, same] at enters
    exact enters.of_append_nil

/-- A name that leads anywhere is short enough. -/
theorem IsPart.leadsDown_of_walk (part : IsPart name) {place : Place}
    (arrives : tree.walk purpose links here [name] = .ok place) : LeadsDown name := by
  rw [walk, if_neg (by simp [part.somewhere]), if_neg (by simp [part.notParent]),
    if_neg (by simp [isFinalSlash])] at arrives
  split at arrives
  · cases arrives
  · rename_i short
    exact ⟨part.somewhere, part.notParent, Nat.not_lt.mp short⟩

/-- Where names do not lead to a directory, nothing is found behind them. -/
theorem leads_or_fails (filled : last ≠ []) (purpose : Purpose) (links : Nat) (here : Trail)
    (names : List Text) :
    (∃ left trail, Leads tree links here names left trail) ∨
      ∀ place, tree.walk purpose links here (names ++ [last]) ≠ .ok place := by
  have unslashed (front : List Text) :
      (purpose == .writing && isFinalSlash (front ++ [last])) = false :=
    unslashed_append front (by simp [isFinalSlash, filled])
  fun_induction walk tree .target links here names with
  | case1 links here => exact .inl ⟨links, here, .here⟩
  | case2 links here name rest void ih =>
      rw [List.cons_append, walk, if_pos void]
      exact ih.imp_left (.imp fun _ => .imp fun _ => .nowhere void)
  | case3 links here name rest somewhere parent ih =>
      rw [List.cons_append, walk, if_neg somewhere, if_pos parent]
      obtain rfl := beq_iff_eq.mp parent
      exact ih.imp_left (.imp fun _ => .imp fun _ => .up)
  | case4 => simp_all
  | case5 links here name rest somewhere other _ long =>
      right
      rw [List.cons_append, walk, if_neg somewhere, if_neg other, if_neg (by simp [unslashed]),
        if_pos long]
      simp
  | case6 links here name rest somewhere other _ short there free =>
      have down : LeadsDown name := leadsDown_of_not somewhere other short
      right
      rw [List.cons_append, walk_down down (unslashed rest), free]
      simp [placeOfFree, isFinalSlash, filled]
  | case7 links here name rest somewhere other _ short there inside ih =>
      have down : LeadsDown name := leadsDown_of_not somewhere other short
      rw [List.cons_append, walk_directory down (unslashed rest) inside]
      exact ih.imp_left (.imp fun _ => .imp fun _ => .down down inside)
  | case8 links here name rest somewhere other _ short there content inside =>
      have down : LeadsDown name := leadsDown_of_not somewhere other short
      right
      rw [List.cons_append, walk_down down (unslashed rest), inside]
      simp
  | case9 links here name rest somewhere other _ short there content inside =>
      have down : LeadsDown name := leadsDown_of_not somewhere other short
      right
      rw [List.cons_append, walk_down down (unslashed rest), inside]
      simp
  | case10 => simp_all
  | case11 here name rest somewhere other _ short there target inside =>
      have down : LeadsDown name := leadsDown_of_not somewhere other short
      right
      rw [List.cons_append, walk_down down (unslashed rest), inside]
      simp
  | case12 here name rest somewhere other _ short there target inside _ links start ih =>
      have down : LeadsDown name := leadsDown_of_not somewhere other short
      rw [List.cons_append, walk_link down (unslashed rest) (by simp) inside, ← List.append_assoc]
      exact ih.imp_left (.imp fun _ => .imp fun _ => .along down inside)

/-- If anything is found at a joined path, or a free name, its front leads to a directory. -/
theorem enters_of_locate (part : IsPart name) {place : Place}
    (located : tree.locate purpose (joinPath base name) = .ok place) :
    ∃ left trail, Enters tree base left trail ∧
      tree.walk purpose left trail [name] = .ok place := by
  rcases walk_of_locate located with ⟨noNull, -, short, arrives⟩
  rcases pathParts_joinPath part base with ⟨front, parts, same⟩
  rw [parts, isAbsolute_joinPath part] at arrives
  rcases leads_or_fails part.ne_nil purpose linkLimit (if isAbsolute base then [] else tree.working)
    front with ⟨left, trail, leads⟩ | fails
  · have enters : Enters tree base left trail := by
      rcases same with same | same
      · rwa [Enters, same]
      · rw [Enters, same]
        exact leads.append_nil
    exact ⟨left, trail, enters, (enters.locate_joinPath part noNull short).symm.trans located⟩
  · exact absurd arrives (fails place)

theorem zero_notMem_joinPath (noNull : 0 ∉ base) (noNull' : 0 ∉ name) : 0 ∉ joinPath base name := by
  intro inside
  rcases mem_joinPath inside with old | new | slash
  · exact noNull old
  · exact noNull' new
  · exact absurd slash (by decide)

/-- Where a path leads that names the entry under a trail, or a free name. -/
def placeAt (tree : FileTree) (trail : Trail) : Place :=
  match tree.entry? trail with
  | some entry => .taken trail entry
  | none => .free trail

/-- The entry of the last name is found unless it is a link that is followed. -/
theorem walk_singleton (down : LeadsDown name)
    (own : purpose = .itself ∨ ∀ target, tree.entry? (trail ++ [name]) ≠ some (.link target)) :
    tree.walk purpose links trail [name] = .ok (tree.placeAt (trail ++ [name])) := by
  have unslashed : (purpose == .writing && isFinalSlash []) = false := by simp [isFinalSlash]
  rw [walk_down down unslashed, placeAt]
  cases inside : tree.entry? (trail ++ [name]) with
  | none => rfl
  | some entry =>
      cases entry with
      | directory => rw [walk, inside, Option.getD_some]
      | file content => rfl
      | link target =>
          obtain rfl := own.resolve_right fun direct => direct target inside
          rfl

/-- The path of an entry leads to it if it is no link. -/
theorem Enters.found?_joinPath (enters : Enters tree base left trail) (noNull : 0 ∉ base)
    (named : IsName name) (short : isTooLong (joinPath base name) = false)
    (direct : ∀ target, tree.entry? (trail ++ [name]) ≠ some (.link target)) :
    tree.found? (joinPath base name) =
      (tree.entry? (trail ++ [name])).map (trail ++ [name], ·) := by
  rw [found?, enters.locate_joinPath named.isPart (zero_notMem_joinPath noNull named.noNull) short,
    walk_singleton named.toLeadsDown (.inr direct), placeAt]
  cases tree.entry? (trail ++ [name]) <;> rfl

/-- What stands at the path of an entry is the entry, if links are not followed there. -/
theorem Enters.locate_itself_joinPath (enters : Enters tree base left trail) (noNull : 0 ∉ base)
    (named : IsName name) (short : isTooLong (joinPath base name) = false) :
    tree.locate .itself (joinPath base name) = .ok (tree.placeAt (trail ++ [name])) := by
  rw [enters.locate_joinPath named.isPart (zero_notMem_joinPath noNull named.noNull) short,
    walk_singleton named.toLeadsDown (.inl rfl)]

end FileTree

end SocialMigration
