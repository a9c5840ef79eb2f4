import SocialMigration.Platform
import SocialMigration.Proofs.Json.Spelling

/-!
# The height of values

How many values stand in each other, as a number. A value is put into text if that number is no
greater than the room there is and every integer in it is short enough; so both tell, without going
through the value, whether it has a flaw.
-/

namespace SocialMigration

namespace Json

mutual

/-- How many values stand in each other in a value, of which one without parts counts `leaf`. -/
def height (leaf : Nat) : Json → Nat
  | arr items => itemsHeight leaf items + 1
  | obj fields => fieldsHeight leaf fields + 1
  | _ => leaf

/-- The greatest height of an item. -/
def itemsHeight (leaf : Nat) : List Json → Nat
  | [] => 0
  | item :: items => max (height leaf item) (itemsHeight leaf items)

/-- The greatest height of the value of a field. -/
def fieldsHeight (leaf : Nat) : List (Text × Json) → Nat
  | [] => 0
  | (_, value) :: fields => max (height leaf value) (fieldsHeight leaf fields)

end

/-- How many arrays and objects stand in each other in a value. -/
def nesting (value : Json) : Nat :=
  value.height 0

/-- Whether a value is no integer, or a short one. -/
def isShortPart : Json → Bool
  | int value => isShort value
  | _ => true

/-- Whether every integer in a value has few enough digits to be put into text. -/
def hasShortIntegers (value : Json) : Bool :=
  value.all isShortPart

variable {leaf room : Nat} {items : List Json} {fields : List (Text × Json)} {value : Json}

theorem itemsHeight_le_iff :
    itemsHeight leaf items ≤ room ↔ ∀ item ∈ items, item.height leaf ≤ room := by
  induction items with
  | nil => simp [itemsHeight]
  | cons item items ih => rw [itemsHeight, Nat.max_le, ih, List.forall_mem_cons]

theorem fieldsHeight_le_iff :
    fieldsHeight leaf fields ≤ room ↔ ∀ field ∈ fields, field.2.height leaf ≤ room := by
  induction fields with
  | nil => simp [fieldsHeight]
  | cons field fields ih => rw [fieldsHeight, Nat.max_le, ih, List.forall_mem_cons]

theorem height_arr_le_iff :
    (arr items).height leaf ≤ room ↔ room ≠ 0 ∧ ∀ item ∈ items, item.height leaf ≤ room - 1 := by
  rw [height, ← itemsHeight_le_iff]
  omega

theorem height_obj_le_iff :
    (obj fields).height leaf ≤ room ↔
      room ≠ 0 ∧ ∀ field ∈ fields, field.2.height leaf ≤ room - 1 := by
  rw [height, ← fieldsHeight_le_iff]
  omega

theorem nesting_arr_le_iff :
    (arr items).nesting ≤ room ↔ room ≠ 0 ∧ ∀ item ∈ items, item.nesting ≤ room - 1 :=
  height_arr_le_iff

theorem nesting_obj_le_iff :
    (obj fields).nesting ≤ room ↔ room ≠ 0 ∧ ∀ field ∈ fields, field.2.nesting ≤ room - 1 :=
  height_obj_le_iff

@[simp] theorem hasShortIntegers_int {number : Int} :
    (int number).hasShortIntegers = isShort number := rfl

@[simp] theorem hasShortIntegers_arr :
    (arr items).hasShortIntegers = true ↔ ∀ item ∈ items, item.hasShortIntegers = true := by
  simp [hasShortIntegers, all_arr_iff, isShortPart]

@[simp] theorem hasShortIntegers_obj :
    (obj fields).hasShortIntegers = true ↔
      ∀ field ∈ fields, field.2.hasShortIntegers = true := by
  simp [hasShortIntegers, all_obj_iff, isShortPart]

theorem hasShortIntegers_of_isLegible (legible : value.isLegible = true) :
    value.hasShortIntegers = true := by
  induction value using forall_of_parts with
  | null | bool _ | float _ | str _ => rfl
  | int value => exact legible
  | arr items parts =>
      rw [isLegible_arr] at legible
      exact hasShortIntegers_arr.mpr fun item member => parts item member (legible item member)
  | obj fields parts =>
      rw [isLegible_obj] at legible
      exact hasShortIntegers_obj.mpr fun field member =>
        parts field member (legible.2 field member).2

/-- Whether a value is one that the reader gives, with room for so many arrays and objects in each
other. -/
def IsRead (room : Nat) (value : Json) : Prop :=
  ∃ text : Text, text.isScalar = true ∧ read room text = .ok value

theorem IsRead.hasShortIntegers (isRead : IsRead room value) :
    value.hasShortIntegers = true := by
  rcases isRead with ⟨text, scalar, found⟩
  exact hasShortIntegers_of_isLegible (isLegible_of_read scalar found)

theorem hasShortIntegers_of_field? {key : Text} {part : Json}
    (short : value.hasShortIntegers = true) (found : value.field? key = some part) :
    part.hasShortIntegers = true := by
  cases value with
  | obj fields =>
      rcases List.lookup_eq_some_iff.mp found with ⟨before, after, rfl, -⟩
      rw [hasShortIntegers_obj] at short
      exact short (key, part) (by simp)
  | null | bool _ | int _ | float _ | str _ | arr _ => cases found

theorem leafFlaw?_eq_none_iff :
    leafFlaw? leaf room value = none ↔ leaf ≤ room ∧ value.isShortPart = true := by
  by_cases deep : room < leaf
  · simp [leafFlaw?, deep, Nat.not_le_of_lt deep]
  · have fits := Nat.le_of_not_lt deep
    cases value with
    | int value =>
        rw [isShortPart, isShort, decide_eq_true_eq, leafFlaw?, if_neg deep]
        by_cases long : digitLimit < (Numeral.digits 10 value.natAbs).length
        · simp [long, Nat.not_le_of_lt long]
        · simp [long, fits, Nat.le_of_not_lt long]
    | null | bool _ | float _ | str _ | arr _ | obj _ =>
        simp [leafFlaw?, deep, fits, isShortPart]

theorem itemsFlaw?_eq_none_iff :
    itemsFlaw? leaf room items = none ↔ ∀ item ∈ items, item.flaw? leaf room = none := by
  induction items with
  | nil => simp [itemsFlaw?]
  | cons item items ih => simp [itemsFlaw?, ih]

theorem fieldsFlaw?_eq_none_iff :
    fieldsFlaw? leaf room fields = none ↔ ∀ field ∈ fields, field.2.flaw? leaf room = none := by
  induction fields with
  | nil => simp [fieldsFlaw?]
  | cons field fields ih => simp [fieldsFlaw?, ih]

/-- A value is without a flaw exactly if there is room for it and its integers are short. -/
theorem flaw?_eq_none_iff :
    flaw? leaf room value = none ↔
      value.height leaf ≤ room ∧ value.hasShortIntegers = true := by
  induction value using forall_of_parts generalizing room with
  | null | bool _ | int _ | float _ | str _ =>
      simp only [flaw?, height, hasShortIntegers, all, leafFlaw?_eq_none_iff]
  | arr items parts =>
      rw [flaw?, height_arr_le_iff, hasShortIntegers_arr]
      by_cases full : room = 0
      · simp [full]
      · simp only [full, if_false, itemsFlaw?_eq_none_iff, ne_eq, not_false_eq_true, true_and,
          ← forall₂_and]
        exact forall₂_congr fun item member => parts item member
  | obj fields parts =>
      rw [flaw?, height_obj_le_iff, hasShortIntegers_obj]
      by_cases full : room = 0
      · simp [full]
      · simp only [full, if_false, fieldsFlaw?_eq_none_iff, ne_eq, not_false_eq_true, true_and,
          ← forall₂_and]
        exact forall₂_congr fun field member => parts field member

theorem eq_tooDeep_of_itemsFlaw? {flaw : Flaw}
    (parts : ∀ item ∈ items, ∀ flaw, item.flaw? leaf room = some flaw → flaw = .tooDeep)
    (found : itemsFlaw? leaf room items = some flaw) : flaw = .tooDeep := by
  induction items with
  | nil => cases found
  | cons item items ih =>
      rcases List.forall_mem_cons.mp parts with ⟨first, others⟩
      rcases Option.or_eq_some_iff.mp found with here | ⟨-, later⟩
      · exact first flaw here
      · exact ih others later

theorem eq_tooDeep_of_fieldsFlaw? {flaw : Flaw}
    (parts : ∀ field ∈ fields, ∀ flaw, field.2.flaw? leaf room = some flaw → flaw = .tooDeep)
    (found : fieldsFlaw? leaf room fields = some flaw) : flaw = .tooDeep := by
  induction fields with
  | nil => cases found
  | cons field fields ih =>
      rcases List.forall_mem_cons.mp parts with ⟨first, others⟩
      rcases Option.or_eq_some_iff.mp found with here | ⟨-, later⟩
      · exact first flaw here
      · exact ih others later

/-- The only flaw of a value with short integers is its height. -/
theorem eq_tooDeep_of_flaw? {flaw : Flaw} (short : value.hasShortIntegers = true)
    (found : value.flaw? leaf room = some flaw) : flaw = .tooDeep := by
  induction value using forall_of_parts generalizing room flaw with
  | null | bool _ | int _ | float _ | str _ =>
      by_cases deep : room < leaf
      · simp only [flaw?, leafFlaw?, if_pos deep, Option.some.injEq] at found
        exact found.symm
      · have none := flaw?_eq_none_iff.mpr
          ⟨Nat.le_of_not_lt (by simpa only [height] using deep), short⟩
        cases none.symm.trans found
  | arr items parts =>
      rw [hasShortIntegers_arr] at short
      rw [flaw?] at found
      split at found
      · exact (Option.some.inj found).symm
      · exact eq_tooDeep_of_itemsFlaw?
          (fun item member flaw => parts item member (short item member)) found
  | obj fields parts =>
      rw [hasShortIntegers_obj] at short
      rw [flaw?] at found
      split at found
      · exact (Option.some.inj found).symm
      · exact eq_tooDeep_of_fieldsFlaw?
          (fun field member flaw => parts field member (short field member)) found

end Json

namespace Place

variable [Platform] {place : Place} {value : Json}

/-- Whether there is room for a value at a place, and every integer in it is short enough. -/
structure Fits (place : Place) (value : Json) : Prop where
  height : value.height place.leaf ≤ Platform.textRoom place
  short : value.hasShortIntegers = true

/-- Whether a value can be shown at a place on its own: a string always can. -/
def Shows (place : Place) : Json → Prop
  | .str _ => True
  | value => place.Fits value

/-- A value is put into text at a place exactly if it fits there. -/
theorem unworded?_eq_none_iff : place.unworded? value = none ↔ place.Fits value := by
  rw [unworded?, Option.map_eq_none_iff, Json.flaw?_eq_none_iff]
  exact ⟨fun ⟨height, short⟩ => ⟨height, short⟩, fun ⟨height, short⟩ => ⟨height, short⟩⟩

theorem unshown?_eq_none_iff : place.unshown? value = none ↔ place.Shows value := by
  cases value with
  | str text => exact iff_of_true rfl trivial
  | null | bool _ | int _ | float _ | arr _ | obj _ => exact unworded?_eq_none_iff

/-- Nothing but its height keeps a value with short integers from being put into text. -/
theorem eq_tooDeep_of_unworded? {fault : Unworded} (short : value.hasShortIntegers = true)
    (found : place.unworded? value = some fault) : fault = ⟨place, .tooDeep⟩ := by
  rcases Option.map_eq_some_iff.mp found with ⟨flaw, flawed, rfl⟩
  rw [Json.eq_tooDeep_of_flaw? short flawed]

theorem eq_tooDeep_of_unshown? {fault : Unworded} (short : value.hasShortIntegers = true)
    (found : place.unshown? value = some fault) : fault = ⟨place, .tooDeep⟩ := by
  cases value with
  | str text => cases found
  | null | bool _ | int _ | float _ | arr _ | obj _ => exact eq_tooDeep_of_unworded? short found

/-- A value for which there is no room is too deep, if that is all that is wrong with it. -/
theorem unworded?_of_lt (short : value.hasShortIntegers = true)
    (deep : Platform.textRoom place < value.height place.leaf) :
    place.unworded? value = some ⟨place, .tooDeep⟩ := by
  cases found : place.unworded? value with
  | none => exact absurd (unworded?_eq_none_iff.mp found).height (Nat.not_le_of_lt deep)
  | some fault => rw [eq_tooDeep_of_unworded? short found]

end Place

end SocialMigration
