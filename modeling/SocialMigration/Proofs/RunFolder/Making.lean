import Mathlib.Data.List.Basic
import SocialMigration.Proofs.FileTree.Change
import SocialMigration.Proofs.RunFolder.Name
import SocialMigration.RunFolder.Basic

/-!
# The folder that a run gets

The name of a run's folder is that of the minute in which the run starts, whatever the accounts are
called: what is not safe in a name becomes an underscore, so that no name ends the line or leads
elsewhere. Two runs have the same folder if they start in the same minute and their names become the
same.
-/

namespace SocialMigration

/-- A moment without its seconds. -/
def Moment.toMinute (moment : Moment) : Moment :=
  { moment with second := 0, microsecond := 0 }

theorem Moment.IsValid.toMinute {moment : Moment} (valid : moment.IsValid) :
    moment.toMinute.IsValid :=
  { toIsDate := valid.toIsDate, hour_lt := valid.hour_lt, minute_lt := valid.minute_lt,
    second_lt := (by decide : 0 < 60), microsecond_lt := (by decide : 0 < 1000000) }

/-- A minute has passed by less than its length. -/
theorem Moment.IsValid.instant_toMinute {moment : Moment} (valid : moment.IsValid) :
    moment.toMinute.instant ≤ moment.instant ∧
      moment.instant < moment.toMinute.instant + 60 * 1000000 := by
  have seconds := valid.second_lt
  have fraction := valid.microsecond_lt
  have minute : moment.toMinute.instant = moment.dayNumber * Calendar.microsecondsPerDay +
      ((moment.hour * 60 + moment.minute) * 60 + 0) * 1000000 + 0 := rfl
  rw [minute, Moment.instant]
  omega

namespace RunFolder

open FileTree (IsPart Holds joinPath)

variable {folder made : RunFolder} {tree after : FileTree} {start other : Moment}
  {run name base path : Text} {c d : CodePoint}

/-! ## Safe names -/

theorem paddedNat_zero (n : Nat) : Text.paddedNat 0 n = Text.ofNat n := by
  simp [Text.paddedNat, Text.padZeros]

theorem safe_underscore : safe 0x5F = 0x5F := by
  rw [safe]
  split <;> rfl

/-- What is not safe is not in a safe name. -/
theorem notMem_map_safe (unsafe_ : safe d ≠ d) (run : Text) : d ∉ run.map safe := by
  rw [List.mem_map]
  rintro ⟨c, -, same⟩
  rw [safe] at same
  split at same
  · rename_i good
    exact unsafe_ (by rw [safe, if_pos (same ▸ good)])
  · exact unsafe_ (same ▸ safe_underscore)

theorem folderName_eq (start : Moment) (run : Text) :
    folderName start run = Text.ofNat start.year ++ Text.paddedNat 2 start.month ++
      Text.paddedNat 2 start.day ++ 0x5F :: (Text.paddedNat 2 start.hour ++
        Text.paddedNat 2 start.minute ++ 0x5F :: run.map safe) := by
  have underscore : Text.ofString "_" = [0x5F] := by decide
  simp [folderName, Moment.stamp, underscore]

theorem notMem_folderName (noDigit : d.isDigit = false) (unsafe_ : safe d ≠ d) :
    d ∉ folderName start run := by
  have digits (width n : Nat) : d ∉ Text.paddedNat width n := by
    intro inside
    exact nomatch noDigit.symm.trans (Text.isDigit_paddedNat width n d inside)
  have year : d ∉ Text.ofNat start.year := paddedNat_zero start.year ▸ digits 0 start.year
  have score : d ≠ 0x5F := by
    rintro rfl
    exact unsafe_ safe_underscore
  simp [folderName_eq, digits, year, score, notMem_map_safe unsafe_ run]

/-- The name of a folder leads to an entry of the output directory. -/
theorem isPart_folderName (start : Moment) (run : Text) : IsPart (folderName start run) := by
  have score : 0x5F ∈ folderName start run := by simp [folderName_eq]
  refine ⟨?_, ?_, notMem_folderName (by decide) (by decide +kernel)⟩
  · rw [FileTree.leadsNowhere, Bool.or_eq_false_iff, beq_eq_false_iff_ne, beq_eq_false_iff_ne]
    constructor <;> intro same <;> rw [same] at score <;> exact absurd score (by decide)
  · rw [beq_eq_false_iff_ne]
    intro same
    rw [same] at score
    exact absurd score (by decide)

/-- A year of four digits is not padded. -/
theorem paddedNat_year (four : 1000 ≤ start.year) :
    Text.paddedNat 4 start.year = Text.ofNat start.year := by
  have below := Numeral.value_lt (Numeral.digits_lt (by decide : 0 < 10) start.year)
  rw [Numeral.value_digits (by decide)] at below
  have long : 3 < (Text.ofNat start.year).length := by
    rw [Text.ofNat, List.length_map, ← Nat.pow_lt_pow_iff_right (a := 10) (by decide)]
    omega
  rw [Text.paddedNat, Text.padZeros, Nat.sub_eq_zero_of_le long, List.replicate_zero,
    List.nil_append]

/-- The folder of a run has the name of the minute in which the run starts. -/
theorem names_folderName (valid : start.IsValid) (four : 1000 ≤ start.year) (run : Text) :
    Names (folderName start run) start.toMinute where
  valid := valid.toMinute
  second := rfl
  microsecond := rfl
  spelled := by
    refine ⟨run.map safe, notMem_map_safe (by decide +kernel) run, .inl ?_⟩
    rw [minuteName_append, folderName_eq]
    exact congrArg (fun year => year ++ _ ++ _ ++ _) (paddedNat_year four).symm

/-! ## Folders of the same name -/

/-- Two runs that have the same folder below one directory: they start in the same minute, and
their names become the same. -/
def Shares (first second : RunFolder) : Prop :=
  first.start.toMinute = second.start.toMinute ∧ first.name.map safe = second.name.map safe

instance (first second : RunFolder) : Decidable (Shares first second) :=
  inferInstanceAs (Decidable (_ ∧ _))

theorem paddedNat_injective (width : Nat) : Function.Injective (Text.paddedNat width) := by
  intro n m same
  rw [← valueOf_paddedNat width n, same, valueOf_paddedNat]

/-- Digits of the same length are equal only as a whole. -/
theorem paddedNat_two_append {n n' : Nat} {front front' : Text} (small : n < 100)
    (small' : n' < 100) (same : front ++ Text.paddedNat 2 n = front' ++ Text.paddedNat 2 n') :
    front = front' ∧ n = n' := by
  have length := (Text.length_paddedNat (by decide : 0 < 2) small).trans
    (Text.length_paddedNat (by decide) small').symm
  rcases List.append_inj' same length with ⟨front, back⟩
  exact ⟨front, paddedNat_injective 2 back⟩

/-- Texts that are cut where something stands for the first time are equal part by part. -/
theorem append_cons_inj_of_notMem {front front' back back' : Text} (first : c ∉ front)
    (first' : c ∉ front') :
    front ++ c :: back = front' ++ c :: back' ↔ front = front' ∧ back = back' := by
  induction front generalizing front' with
  | nil =>
      cases front' with
      | nil => simp
      | cons d front' =>
          have differs : c ≠ d := fun same => first' (same ▸ List.mem_cons_self)
          simp [differs]
  | cons d front ih =>
      rw [List.mem_cons, not_or] at first
      cases front' with
      | nil => simp [Ne.symm first.1]
      | cons d' front' =>
          rw [List.mem_cons, not_or] at first'
          simp [ih first.2 first'.2, and_assoc]

theorem folderName_eq_iff {run' : Text} (valid : start.IsValid) (valid' : other.IsValid) :
    folderName start run = folderName other run' ↔
      start.toMinute = other.toMinute ∧ run.map safe = run'.map safe := by
  have digits (width n : Nat) : 0x5F ∉ Text.paddedNat width n := fun inside =>
    absurd (Text.isDigit_paddedNat width n _ inside) (by decide)
  have date (moment : Moment) : 0x5F ∉ Text.ofNat moment.year ++ Text.paddedNat 2 moment.month ++
      Text.paddedNat 2 moment.day := by
    simp [digits, ← paddedNat_zero]
  have time (moment : Moment) : 0x5F ∉ Text.paddedNat 2 moment.hour ++
      Text.paddedNat 2 moment.minute := by
    simp [digits]
  rw [folderName_eq, folderName_eq, append_cons_inj_of_notMem (date start) (date other),
    append_cons_inj_of_notMem (time start) (time other)]
  constructor
  · rintro ⟨date, time, name⟩
    rcases twoDigits valid with ⟨monthSmall, daySmall, -, minuteSmall⟩
    rcases twoDigits valid' with ⟨monthSmall', daySmall', -, minuteSmall'⟩
    rcases paddedNat_two_append daySmall daySmall' date with ⟨months, day⟩
    rcases paddedNat_two_append monthSmall monthSmall' months with ⟨years, month⟩
    rcases paddedNat_two_append minuteSmall minuteSmall' time with ⟨hours, minute⟩
    have year : start.year = other.year :=
      paddedNat_injective 0 (by rw [paddedNat_zero, years, paddedNat_zero])
    refine ⟨?_, name⟩
    simp [Moment.toMinute, year, month, day, paddedNat_injective 2 hours, minute]
  · rintro ⟨minute, name⟩
    simp only [Moment.toMinute, Moment.mk.injEq] at minute
    rcases minute with ⟨year, month, day, hour, minute, -⟩
    exact ⟨by rw [year, month, day], by rw [hour, minute], name⟩

/-- The folders of two runs have the same path below one directory just if the runs share a
folder. -/
theorem path_eq_iff {first second : RunFolder} (valid : first.start.IsValid)
    (valid' : second.start.IsValid) (base : second.base = first.base) :
    second.path = first.path ↔ Shares first second := by
  have part := isPart_folderName first.start first.name
  have part' := isPart_folderName second.start second.name
  rw [Shares, ← folderName_eq_iff valid valid', path, path, base,
    FileTree.joinPath_inj part' part]
  exact eq_comm

/-! ## Making the folder -/

theorem grows_create (folder : RunFolder) (tree : FileTree) :
    FileTree.Grows tree (folder.create tree).2.1 := by
  have grows := FileTree.grows_makeDirectories tree folder.path
  rw [create]
  rcases outcome : tree.makeDirectories folder.path with ⟨after, made⟩
  rw [outcome] at grows
  exact grows

/-- A folder that has been made has its path, and is below the directory to which the front of that
leads. -/
theorem create_eq_ok (created : folder.create tree = (made, after, .ok path)) :
    made = { folder with current := some folder.path } ∧ path = folder.path ∧
      ∃ grown, FileTree.Grows tree grown ∧ grown.ensureDirectory folder.path = .ok after := by
  rw [create] at created
  cases outcome : tree.makeDirectories folder.path with
  | mk changed result =>
      rw [outcome] at created
      cases result with
      | error fault => cases created
      | ok done =>
          cases created
          refine ⟨rfl, rfl, ?_⟩
          refine FileTree.ensureDirectory_of_makeDirectories ?_ outcome
          have part := isPart_folderName folder.start folder.name
          rcases FileTree.parentAndName_joinPath part folder.base with ⟨parent, -, cut, -⟩
          rw [RunFolder.path, cut]
          intro (dot : folderName folder.start folder.name = [0x2E])
          rw [dot] at part
          exact absurd part.somewhere (by decide)

/-! ## Saving a file -/

/-- A value can be saved where the folder can be made and the path of the file leads to an open
place. -/
theorem save_eq_ok {fileName : Text} {grown : FileTree} {there : FileTree.Place}
    (fresh : folder.current = none) (made : tree.makeDirectories folder.path = (grown, .ok ()))
    (located : grown.locate .writing (joinPath folder.path fileName) = .ok there)
    (opens : there.IsOpen) (value : Json) :
    (folder.save tree fileName value).2.2 = .ok (joinPath folder.path fileName) := by
  have written : grown.writeFile (joinPath folder.path fileName) (value.written .indented) =
      .ok (grown.put there.trail (.file (value.written .indented))) :=
    FileTree.writeFile_eq_ok_iff.mpr ⟨there, located, opens, rfl⟩
  rw [save, fresh]
  simp only [create, made, Except.mapError, Except.map, write, filePath, written]

/-- Saving a value in a new folder makes the folder and writes the file, unless one of the two
fails. -/
theorem save_cases (fresh : folder.current = none) (tree : FileTree) (fileName : Text)
    (value : Json) :
    (∃ failure, (folder.save tree fileName value).2.2 = .error failure) ∧
        (folder.save tree fileName value).2.1 = (folder.create tree).2.1 ∨
      (folder.save tree fileName value).2.2 = .ok (joinPath folder.path fileName) ∧
        (∃ left trail, Holds (folder.create tree).2.1 folder.base
          (folderName folder.start folder.name) left trail) ∧
        (folder.create tree).2.1.writeFile (joinPath folder.path fileName)
          (value.written .indented) = .ok (folder.save tree fileName value).2.1 := by
  rw [save, fresh]
  rcases created : folder.create tree with ⟨made, between, failure | path⟩
  · exact .inl ⟨⟨failure, rfl⟩, rfl⟩
  · rcases create_eq_ok created with ⟨rfl, rfl, grown, -, ensured⟩
    have holds := FileTree.holds_of_ensureDirectory (isPart_folderName _ _) ensured
    simp only [write, filePath]
    cases written : between.writeFile (joinPath folder.path fileName)
      (value.written .indented) with
    | error fault => exact .inl ⟨⟨_, rfl⟩, rfl⟩
    | ok after => exact .inr ⟨rfl, holds, rfl⟩

/-- What is saved in a new folder is read back from its file. -/
theorem content?_save {fileName : Text} {value : Json} (fresh : folder.current = none)
    (saved : (folder.save tree fileName value).2.2 = .ok path) :
    path = joinPath folder.path fileName ∧
      (folder.save tree fileName value).2.1.content? path = some (value.written .indented) := by
  rcases save_cases fresh tree fileName value with ⟨⟨failure, failed⟩, -⟩ | ⟨done, -, written⟩
  · exact nomatch failed.symm.trans saved
  · obtain rfl := Except.ok.inj (saved.symm.trans done)
    exact ⟨rfl, FileTree.content?_writeFile written⟩

end RunFolder

end SocialMigration
