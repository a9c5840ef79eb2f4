import Mathlib.Data.List.Nodup
import SocialMigration.Proofs.Json.Numbers
import SocialMigration.Proofs.Json.Strings
import SocialMigration.Proofs.Outcome

/-!
# Legible values

What a written value can be read back from: its integers are short enough, its strings are
unpaired, and in each of its objects a key occurs once. Every value that has been read is of this
kind, because a repeated key is settled while an object is read.
-/

namespace SocialMigration

namespace Json

mutual

/-- Whether a value and all of its parts pass a test. -/
def all (test : Json → Bool) : Json → Bool
  | arr items => test (arr items) && allItems test items
  | obj fields => test (obj fields) && allFields test fields
  | value => test value

/-- Whether all items and their parts pass a test. -/
def allItems (test : Json → Bool) : List Json → Bool
  | [] => true
  | item :: items => all test item && allItems test items

/-- Whether the values of all fields and their parts pass a test. -/
def allFields (test : Json → Bool) : List (Text × Json) → Bool
  | [] => true
  | (_, value) :: fields => all test value && allFields test fields

end

/-- Whether a value is a double. -/
def isFloat : Json → Bool
  | float _ => true
  | _ => false

/-- Whether a value holds no double. -/
def isFloatFree (value : Json) : Bool :=
  value.all fun part => !part.isFloat

/-- Whether a value can be read back, not counting its parts. -/
def isLegiblePart : Json → Bool
  | int value => isShort value
  | str text => text.isUnpaired
  | obj fields => fields.all (·.1.isUnpaired) && decide (fields.map Prod.fst).Nodup
  | _ => true

/-- Whether a value can be read back, doubles apart. -/
def isLegible (value : Json) : Bool :=
  value.all isLegiblePart

variable {test : Json → Bool} {items : List Json} {fields settings : List (Text × Json)}
  {key text rest : Text} {value : Json}

theorem allItems_iff :
    allItems test items = true ↔ ∀ item ∈ items, item.all test = true := by
  induction items with
  | nil => simp [allItems]
  | cons item items ih => simp [allItems, ih]

theorem allFields_iff :
    allFields test fields = true ↔ ∀ field ∈ fields, field.2.all test = true := by
  induction fields with
  | nil => simp [allFields]
  | cons field fields ih => simp [allFields, ih]

theorem all_arr_iff :
    (arr items).all test = true ↔
      test (arr items) = true ∧ ∀ item ∈ items, item.all test = true := by
  rw [all, Bool.and_eq_true, allItems_iff]

theorem all_obj_iff :
    (obj fields).all test = true ↔
      test (obj fields) = true ∧ ∀ field ∈ fields, field.2.all test = true := by
  rw [all, Bool.and_eq_true, allFields_iff]

@[simp] theorem isFloatFree_arr :
    (arr items).isFloatFree = true ↔ ∀ item ∈ items, item.isFloatFree = true := by
  simp [isFloatFree, all_arr_iff, isFloat]

@[simp] theorem isFloatFree_obj :
    (obj fields).isFloatFree = true ↔ ∀ field ∈ fields, field.2.isFloatFree = true := by
  simp [isFloatFree, all_obj_iff, isFloat]

@[simp] theorem isLegible_arr :
    (arr items).isLegible = true ↔ ∀ item ∈ items, item.isLegible = true := by
  simp [isLegible, all_arr_iff, isLegiblePart]

@[simp] theorem isLegible_obj :
    (obj fields).isLegible = true ↔ (fields.map Prod.fst).Nodup ∧
      ∀ field ∈ fields, field.1.isUnpaired = true ∧ field.2.isLegible = true := by
  simp only [isLegible, all_obj_iff, isLegiblePart, Bool.and_eq_true, List.all_eq_true,
    decide_eq_true_eq]
  grind

/-! ## Fields -/

theorem mem_setField {field : Text × Json} (member : field ∈ setField key value fields) :
    field = (key, value) ∨ field ∈ fields := by
  induction fields with
  | nil => exact .inl (List.mem_singleton.mp member)
  | cons other fields ih =>
      rw [setField] at member
      split at member
      · rcases List.mem_cons.mp member with same | member
        · exact .inl same
        · exact .inr (List.mem_cons_of_mem _ member)
      · rcases List.mem_cons.mp member with rfl | member
        · exact .inr List.mem_cons_self
        · exact (ih member).imp_right (List.mem_cons_of_mem _)

theorem setField_of_not_mem (absent : key ∉ fields.map Prod.fst) :
    setField key value fields = fields ++ [(key, value)] := by
  induction fields with
  | nil => rfl
  | cons field fields ih =>
      simp only [List.map_cons, List.mem_cons, not_or] at absent
      have other : (field.1 == key) = false :=
        beq_eq_false_iff_ne.mpr fun same => absent.1 same.symm
      simp [setField, other, ih absent.2]

theorem map_fst_setField_of_mem (present : key ∈ fields.map Prod.fst) :
    (setField key value fields).map Prod.fst = fields.map Prod.fst := by
  induction fields with
  | nil => exact absurd present List.not_mem_nil
  | cons field fields ih =>
      rw [setField]
      split
      · rename_i same
        rw [List.map_cons, List.map_cons, eq_of_beq same]
      · rename_i other
        have later : key ∈ fields.map Prod.fst := by
          rcases List.mem_cons.mp present with same | later
          · exact absurd (beq_iff_eq.mpr same.symm) other
          · exact later
        rw [List.map_cons, List.map_cons, ih later]

/-- Setting a key keeps the keys of an object different. -/
theorem nodup_setField (distinct : (fields.map Prod.fst).Nodup) :
    ((setField key value fields).map Prod.fst).Nodup := by
  by_cases present : key ∈ fields.map Prod.fst
  · rwa [map_fst_setField_of_mem present]
  · rw [setField_of_not_mem present, List.map_append]
    refine List.nodup_append.mpr ⟨distinct, List.nodup_singleton key, ?_⟩
    intro other member _ single same
    rcases List.mem_singleton.mp single with rfl
    exact present (same ▸ member)

/-- Settings of which no key occurs among the fields before, or twice, are added to them. -/
theorem foldl_setField (distinct : ((fields ++ settings).map Prod.fst).Nodup) :
    settings.foldl (fun fields (key, value) => setField key value fields) fields =
      fields ++ settings := by
  induction settings generalizing fields with
  | nil => simp
  | cons setting settings ih =>
      rcases setting with ⟨key, value⟩
      have absent : key ∉ fields.map Prod.fst := by
        intro present
        rw [List.map_append, List.map_cons] at distinct
        exact (List.nodup_append.mp distinct).2.2 _ present _ List.mem_cons_self rfl
      simp only [List.foldl_cons]
      rw [setField_of_not_mem absent, ih (by simpa using distinct)]
      simp

/-- Fields with different keys are the object that they build. -/
theorem ofSettings_of_nodup (distinct : (fields.map Prod.fst).Nodup) :
    ofSettings fields = obj fields := by
  have kept : (([] ++ fields).map Prod.fst).Nodup := by simpa using distinct
  exact congrArg obj (foldl_setField kept)

/-- An object that settings build has each key once, and no fields but the settings. -/
theorem ofSettings_eq (settings : List (Text × Json)) :
    ∃ fields, ofSettings settings = obj fields ∧ (fields.map Prod.fst).Nodup ∧
      ∀ field ∈ fields, field ∈ settings := by
  have built (before : List (Text × Json)) (distinct : (before.map Prod.fst).Nodup) :
      let fields := settings.foldl (fun fields (key, value) => setField key value fields) before
      (fields.map Prod.fst).Nodup ∧ ∀ field ∈ fields, field ∈ before ∨ field ∈ settings := by
    induction settings generalizing before with
    | nil => exact ⟨distinct, fun _ => .inl⟩
    | cons setting settings ih =>
        rcases ih _ (nodup_setField distinct) with ⟨distinct', members⟩
        refine ⟨distinct', fun field member => ?_⟩
        rcases members field member with before | later
        · rcases mem_setField before with rfl | before
          · exact .inr List.mem_cons_self
          · exact .inl before
        · exact .inr (List.mem_cons_of_mem _ later)
  rcases built [] List.nodup_nil with ⟨distinct, members⟩
  exact ⟨_, rfl, distinct, fun field member => (members field member).resolve_left (by simp)⟩

/-- An object that legible settings build is legible. -/
theorem isLegible_ofSettings
    (legible : ∀ setting ∈ settings, setting.1.isUnpaired = true ∧ setting.2.isLegible = true) :
    (ofSettings settings).isLegible = true := by
  rcases ofSettings_eq settings with ⟨fields, built, distinct, members⟩
  rw [built, isLegible_obj]
  exact ⟨distinct, fun field member => legible field (members field member)⟩

/-! ## What is read -/

/-- A property of values and the room for them that everything has that is read: the words, short
integers and unpaired strings, and what is put together from such values in a little less room. -/
structure HoldsOfParts (holds : Nat → Json → Prop) : Prop where
  word : ∀ room, ∀ entry ∈ words, holds room entry.2
  string : ∀ room text, text.isUnpaired = true → holds room (.str text)
  integer : ∀ room number, isShort number = true → holds room (.int number)
  double : ∀ room number, holds room (.float number)
  array : ∀ room items, (∀ item ∈ items, holds room item) → holds (room + 1) (.arr items)
  object : ∀ room settings,
    (∀ setting ∈ settings, setting.1.isUnpaired = true ∧ holds room setting.2) →
      holds (room + 1) (.ofSettings settings)

theorem suffix_of_skipSpace (text : Text) : skipSpace text <:+ text :=
  List.dropWhile_suffix _

/-- A word that is read is one of the words. -/
theorem readWord?_ok (read : readWord? text = some (value, rest)) :
    (∃ entry ∈ words, entry.2 = value) ∧ rest <:+ text := by
  rcases List.exists_of_findSome?_eq_some read with ⟨⟨word, meaning⟩, member, found⟩
  simp only [Option.map_eq_some_iff, Prod.mk.injEq, Text.afterPrefix?] at found
  rcases found with ⟨after, dropped, rfl, rfl⟩
  split at dropped
  · cases dropped
    exact ⟨⟨_, member, rfl⟩, List.drop_suffix ..⟩
  · cases dropped

/-- Whether what a reader reads from texts without surrogates has a property, and what it leaves is
the end of the text. -/
def Reads (holds : Json → Prop) (reader : Text → Except Fault (Json × Text)) : Prop :=
  ∀ text value rest, text.isScalar = true → reader text = .ok (value, rest) →
    holds value ∧ rest <:+ text

section

variable {holds : Nat → Json → Prop} {room rounds : Nat}

/-- After the opening of an array or an object stands its end or its first part. -/
theorem Reads.opened {parts : Text → Except Fault (Json × Text)} {empty : Json}
    (reads : Reads (holds room) parts) (closing : CodePoint) (nothing : holds room empty) :
    Reads (holds room) fun text =>
      match text with
      | [] => parts []
      | c :: after => if c == closing then .ok (empty, after) else parts (c :: after) := by
  intro text value rest scalar found
  cases text with
  | nil => exact reads [] value rest rfl found
  | cons c after =>
      dsimp only at found
      split at found
      · rcases Prod.mk.inj (Except.ok.inj found) with ⟨rfl, rfl⟩
        exact ⟨nothing, List.suffix_cons c after⟩
      · exact reads _ value rest scalar found

/-- After a part of an array or an object stands its end, or a comma and further parts. -/
theorem Reads.continued {parts : Text → Except Fault (Json × Text)} {whole : Json}
    (reads : Reads (holds room) parts) (closing : CodePoint) (complete : holds room whole) :
    Reads (holds room) fun text =>
      match skipSpace text with
      | [] => .error (.found .commaExpected [])
      | c :: after =>
        if c == closing then .ok (whole, after)
        else if c == 0x2C then parts (skipSpace after)
        else .error (.found .commaExpected (c :: after)) := by
  intro text value rest scalar found
  have spaced := suffix_of_skipSpace text
  dsimp only at found
  split at found
  · cases found
  rename_i c after same
  have shorter : after <:+ text := (List.suffix_cons c after).trans (same ▸ spaced)
  split at found
  · rcases Prod.mk.inj (Except.ok.inj found) with ⟨rfl, rfl⟩
    exact ⟨complete, shorter⟩
  split at found
  · have next := (suffix_of_skipSpace after).trans shorter
    rcases reads _ value rest (Text.isScalar_of_suffix next scalar) found with ⟨held, left⟩
    exact ⟨held, left.trans next⟩
  · cases found

namespace HoldsOfParts

theorem readItems (parts : HoldsOfParts holds) {read : List Json}
    (values : Reads (holds room) (readValue room rounds))
    (items : ∀ read : List Json, (∀ item ∈ read, holds room item) →
      Reads (holds (room + 1)) (readItems room rounds read))
    (before : ∀ item ∈ read, holds room item) :
    Reads (holds (room + 1)) (Json.readItems room (rounds + 1) read) := by
  intro text value rest scalar found
  rw [Json.readItems] at found
  split at found
  · cases found
  rename_i item afterItem itemFound
  rcases values text item afterItem scalar itemFound with ⟨held, suffix⟩
  have soFar : ∀ part ∈ item :: read, holds room part :=
    List.forall_mem_cons.mpr ⟨held, before⟩
  have whole : holds (room + 1) (.arr (item :: read).reverse) :=
    parts.array _ _ fun part member => soFar part (List.mem_reverse.mp member)
  have further := (items _ soFar).continued 0x5D whole
  rcases further afterItem value rest (Text.isScalar_of_suffix suffix scalar) found with
    ⟨wholeHeld, left⟩
  exact ⟨wholeHeld, left.trans suffix⟩

theorem readFields (parts : HoldsOfParts holds) {read : List (Text × Json)}
    (values : Reads (holds room) (readValue room rounds))
    (fields : ∀ read : List (Text × Json),
      (∀ field ∈ read, field.1.isUnpaired = true ∧ holds room field.2) →
      Reads (holds (room + 1)) (readFields room rounds read))
    (before : ∀ field ∈ read, field.1.isUnpaired = true ∧ holds room field.2) :
    Reads (holds (room + 1)) (Json.readFields room (rounds + 1) read) := by
  intro text value rest scalar found
  cases text with
  | nil => exact nomatch found
  | cons quote tail =>
      rw [Json.readFields] at found
      split at found
      swap
      · cases found
      split at found
      · cases found
      rename_i key afterKey keyFound
      rcases readQuoted_ok scalar keyFound with ⟨keySuffix, unpaired⟩
      have colonSpaced := (suffix_of_skipSpace afterKey).trans keySuffix
      split at found
      · cases found
      rename_i d afterColon colon
      have colonSuffix := (suffix_of_skipSpace afterColon).trans
        ((List.suffix_cons d afterColon).trans (colon ▸ colonSpaced))
      split at found
      swap
      · cases found
      split at found
      · cases found
      rename_i part afterPart partFound
      rcases values _ part afterPart (Text.isScalar_of_suffix colonSuffix scalar) partFound with
        ⟨held, partSuffix⟩
      have soFar : ∀ field ∈ (key, part) :: read,
          field.1.isUnpaired = true ∧ holds room field.2 :=
        List.forall_mem_cons.mpr ⟨⟨unpaired, held⟩, before⟩
      have whole : holds (room + 1) (.ofSettings ((key, part) :: read).reverse) :=
        parts.object _ _ fun field member => soFar field (List.mem_reverse.mp member)
      have suffix := partSuffix.trans colonSuffix
      have further := (fields _ soFar).continued 0x7D whole
      rcases further afterPart value rest (Text.isScalar_of_suffix suffix scalar) found with
        ⟨wholeHeld, left⟩
      exact ⟨wholeHeld, left.trans suffix⟩

theorem readValue (parts : HoldsOfParts holds)
    (items : room ≠ 0 → Reads (holds room) (Json.readItems (room - 1) rounds []))
    (fields : room ≠ 0 → Reads (holds room) (Json.readFields (room - 1) rounds [])) :
    Reads (holds room) (Json.readValue room (rounds + 1)) := by
  intro text value rest scalar found
  cases text with
  | nil => exact nomatch found
  | cons c tail =>
      have spaced := (suffix_of_skipSpace tail).trans (List.suffix_cons c tail)
      have inner := Text.isScalar_of_suffix spaced scalar
      rw [Json.readValue] at found
      split at found
      · cases read : readQuoted rounds (c :: tail) with
        | error fault => exact nomatch read ▸ found
        | ok result =>
            rcases result with ⟨string, after⟩
            rw [read] at found
            rcases Prod.mk.inj (Except.ok.inj found) with ⟨rfl, rfl⟩
            rcases readQuoted_ok scalar read with ⟨suffix, unpaired⟩
            exact ⟨parts.string _ _ unpaired, suffix⟩
      split at found
      · split at found
        · cases found
        rename_i left
        rcases Nat.exists_eq_succ_of_ne_zero left with ⟨less, rfl⟩
        have nothing : holds (less + 1) (.arr []) := parts.array _ _ (List.forall_mem_nil _)
        rcases (items left).opened 0x5D nothing _ value rest inner found with ⟨held, suffix⟩
        exact ⟨held, suffix.trans spaced⟩
      split at found
      · split at found
        · cases found
        rename_i left
        rcases Nat.exists_eq_succ_of_ne_zero left with ⟨less, rfl⟩
        have nothing : holds (less + 1) (.obj []) := parts.object _ [] (List.forall_mem_nil _)
        rcases (fields left).opened 0x7D nothing _ value rest inner found with ⟨held, suffix⟩
        exact ⟨held, suffix.trans spaced⟩
      split at found
      · rename_i word
        rcases Except.ok.inj found with rfl
        rcases readWord?_ok word with ⟨⟨entry, member, rfl⟩, suffix⟩
        exact ⟨parts.word _ _ member, suffix⟩
      split at found
      · rename_i number
        subst found
        rcases readNumber?_ok number with ⟨suffix, ⟨double, rfl⟩ | ⟨integer, rfl, short⟩⟩
        · exact ⟨parts.double _ _, suffix⟩
        · exact ⟨parts.integer _ _ short, suffix⟩
      · cases found

/-- Every reader reads values with the property, whatever it may consume: the three call each other
with a round less, and what they read inside of an array or an object has less room. -/
theorem readers (parts : HoldsOfParts holds) (room rounds : Nat) :
    Reads (holds room) (Json.readValue room rounds) ∧
      (∀ read : List Json, (∀ item ∈ read, holds room item) →
        Reads (holds (room + 1)) (Json.readItems room rounds read)) ∧
      (∀ read : List (Text × Json),
        (∀ field ∈ read, field.1.isUnpaired = true ∧ holds room field.2) →
        Reads (holds (room + 1)) (Json.readFields room rounds read)) := by
  induction rounds generalizing room with
  | zero =>
      exact ⟨fun _ _ _ _ found => (nomatch found), fun _ _ _ _ _ _ found => (nomatch found),
        fun _ _ _ _ _ _ found => (nomatch found)⟩
  | succ rounds ih =>
      rcases ih room with ⟨values, items, fields⟩
      rcases ih (room - 1) with ⟨-, inItems, inFields⟩
      refine ⟨parts.readValue (fun left => ?_) (fun left => ?_),
        fun _ before => parts.readItems values items before,
        fun _ before => parts.readFields values fields before⟩
      all_goals rcases Nat.exists_eq_succ_of_ne_zero left with ⟨less, rfl⟩
      · exact inItems [] (List.forall_mem_nil _)
      · exact inFields [] (List.forall_mem_nil _)

/-- A value that is read from a text without surrogates has the property. -/
theorem of_read (parts : HoldsOfParts holds) (scalar : text.isScalar = true)
    (found : Json.read room text = .ok value) : holds room value := by
  have whole := mapError_eq_ok_iff.mp found
  rw [readWhole] at whole
  split at whole
  · exact nomatch whole
  split at whole
  · exact nomatch whole
  rename_i part after partFound
  have spaced := Text.isScalar_of_suffix (suffix_of_skipSpace text) scalar
  have held := ((parts.readers _ _).1 _ part after spaced partFound).1
  split at whole
  · exact Except.ok.inj whole ▸ held
  · exact nomatch whole

end HoldsOfParts

end

theorem holdsOfParts_isLegible : HoldsOfParts fun _ value => value.isLegible = true where
  word _ := by decide
  string _ _ unpaired := unpaired
  integer _ _ short := short
  double _ _ := rfl
  array _ _ legible := isLegible_arr.mpr legible
  object _ _ legible := isLegible_ofSettings legible

/-- A value that is read from a text without surrogates is legible. -/
theorem isLegible_of_read {room : Nat} (scalar : text.isScalar = true)
    (found : read room text = .ok value) : value.isLegible = true :=
  holdsOfParts_isLegible.of_read scalar found

end Json

end SocialMigration
