import SocialMigration.Proofs.Json.Doubles
import SocialMigration.Proofs.Json.Spelling

/-!
# Written values are strict JSON

What is written for a value, in any spelling and in every layout that sets parts apart by space
only, is a text of the grammar exactly if every double in the value is finite. One direction builds
the derivation of the text along the value. For the other, the word of a double that is not finite
leaves a capital letter outside of the strings, wherever in the value the double is.
-/

namespace SocialMigration

namespace Json

/-- Whether a value is no double, or a finite one. -/
def isFinitePart : Json → Bool
  | float number => number.isFinite
  | _ => true

/-- Whether every double in a value is finite. -/
def isFinite (value : Json) : Bool :=
  value.all isFinitePart

@[simp] theorem isFinite_arr {items : List Json} :
    (arr items).isFinite = true ↔ ∀ item ∈ items, item.isFinite = true := by
  simp [isFinite, all_arr_iff, isFinitePart]

@[simp] theorem isFinite_obj {fields : List (Text × Json)} :
    (obj fields).isFinite = true ↔ ∀ field ∈ fields, field.2.isFinite = true := by
  simp [isFinite, all_obj_iff, isFinitePart]

namespace Strict

variable {spelling : Spelling} {layout : Layout} {spelled closing front key : Text}
  {c : CodePoint} {value item : Json} {items : List Json} {fields : List (Text × Json)}
  {depth : Nat}

/-! ## Strings -/

theorem mem_escapeLetters {letter : CodePoint} (found : shortEscape? letter = some c) :
    letter ∈ escapeLetters := by
  by_contra unknown
  simp only [escapeLetters, List.mem_cons, List.not_mem_nil, or_false, not_or] at unknown
  rcases unknown with ⟨quote, backslash, slash, b, f, n, r, t⟩
  simp [shortEscape?, quote, backslash, slash, b, f, n, r, t] at found

theorem isSome_of_fourDigits? {w x y z : CodePoint} {n : Nat}
    (found : fourDigits? w x y z = some n) : ∀ c ∈ [w, x, y, z], c.hexValue?.isSome = true := by
  simp only [fourDigits?, Option.bind_eq_bind, Option.bind_eq_some_iff] at found
  rcases found with ⟨_, w, _, x, _, y, _, z, -⟩
  simp [w, x, y, z]

/-- What spells a code point are characters of a string, one or two. -/
theorem characters_of_spells (spells : Spells c spelled) :
    ∃ characters : List Text, (∀ character ∈ characters, IsCharacter character) ∧
      spelled = characters.flatten := by
  cases spells with
  | plain noQuote noBackslash visible =>
      exact ⟨[[c]], List.forall_mem_singleton.mpr (.plain visible noQuote noBackslash), rfl⟩
  | @letter _ letter found =>
      exact ⟨[[0x5C, letter]], List.forall_mem_singleton.mpr (.letter (mem_escapeLetters found)),
        rfl⟩
  | @number w x y z _ found =>
      exact ⟨[[0x5C, 0x75, w, x, y, z]],
        List.forall_mem_singleton.mpr (.number (isSome_of_fourDigits? found)), rfl⟩
  | @pair w x y z w' x' y' z' _ _ found _ found' _ =>
      refine ⟨[[0x5C, 0x75, w, x, y, z], [0x5C, 0x75, w', x', y', z']], ?_, rfl⟩
      exact List.forall_mem_cons.mpr ⟨.number (isSome_of_fourDigits? found),
        List.forall_mem_singleton.mpr (.number (isSome_of_fourDigits? found'))⟩

/-- Every text is written as a string. -/
theorem isString_spelledString (spelling : Spelling) (text : Text) :
    IsString (spelledString spelling text) := by
  have spelled : ∃ characters : List Text, (∀ character ∈ characters, IsCharacter character) ∧
      text.flatMap spelling.spell = characters.flatten := by
    induction text with
    | nil => exact ⟨[], List.forall_mem_nil _, rfl⟩
    | cons c text ih =>
        rcases ih with ⟨characters, each, same⟩
        rcases characters_of_spells (spelling.spells c) with ⟨first, each', same'⟩
        refine ⟨first ++ characters, List.forall_mem_append.mpr ⟨each', each⟩, ?_⟩
        rw [List.flatMap_cons, List.flatten_append, same, same']
  rcases spelled with ⟨characters, each, same⟩
  rw [spelledString, same]
  exact .quoted each

/-! ## Values with finite doubles -/

theorem nothing_isSpace : ([] : Text).all isSpace = true := rfl

theorem isItems_spelled (plain : layout.IsBlank) (opens : front.all isSpace = true)
    (closes : closing.all isSpace = true) (first : IsText (spelledAt spelling layout depth item))
    (others : ∀ item ∈ items, IsText (spelledAt spelling layout depth item)) :
    IsItems (front ++ (spelledAt spelling layout depth item ++
      (spelledItems spelling layout depth items ++ closing))) := by
  induction items generalizing item front with
  | nil =>
      rw [spelledItems, List.nil_append]
      exact .last (.spaced opens first closes)
  | cons next items ih =>
      rcases plain.comma with ⟨space, comma, blank⟩
      rcases List.forall_mem_cons.mp others with ⟨second, others⟩
      have opens' : (space ++ layout.opening depth).all isSpace = true := by
        rw [List.all_append, blank, plain.opening depth]
        rfl
      have isItem := IsText.spaced opens first nothing_isSpace
      have more := IsItems.more isItem (ih opens' second others)
      simpa [spelledItems, comma] using more

theorem isMembers_spelled (key : Text) (plain : layout.IsBlank) (opens : front.all isSpace = true)
    (closes : closing.all isSpace = true) (first : IsText (spelledAt spelling layout depth value))
    (others : ∀ field ∈ fields, IsText (spelledAt spelling layout depth field.2)) :
    IsMembers (front ++ (spelledString spelling key ++ (layout.colon ++
      (spelledAt spelling layout depth value ++
        (spelledFields spelling layout depth fields ++ closing))))) := by
  rcases plain.colon with ⟨between, colon, blank'⟩
  induction fields generalizing key value front with
  | nil =>
      have isValue := IsText.spaced blank' first closes
      have last := IsMembers.last opens (isString_spelledString spelling key) nothing_isSpace
        isValue
      simpa [spelledFields, colon] using last
  | cons next fields ih =>
      rcases plain.comma with ⟨space, comma, blank⟩
      rcases List.forall_mem_cons.mp others with ⟨second, others⟩
      have opens' : (space ++ layout.opening depth).all isSpace = true := by
        rw [List.all_append, blank, plain.opening depth]
        rfl
      have isValue := IsText.spaced blank' first nothing_isSpace
      have more := IsMembers.more opens (isString_spelledString spelling key) nothing_isSpace
        isValue (ih next.1 opens' second others)
      simpa [spelledFields, comma, colon] using more

/-- What is written for a value is a text of the grammar if every double in it is finite. -/
theorem isText_spelledAt (plain : layout.IsBlank) (value : Json) (finite : value.isFinite = true)
    (depth : Nat) : IsText (spelledAt spelling layout depth value) := by
  induction value using forall_of_parts generalizing depth with
  | null =>
      rw [spelledAt]
      exact .word (by decide)
  | bool value =>
      rw [spelledAt]
      cases value <;> exact .word (by decide)
  | int value =>
      rw [spelledAt]
      exact .number (isNumber_ofInt value)
  | float number =>
      rw [spelledAt]
      exact .number (Binary64.isNumber_toText floatSpelling finite)
  | str text =>
      rw [spelledAt]
      exact .string (isString_spelledString spelling text)
  | arr items parts =>
      rw [isFinite_arr] at finite
      cases items with
      | nil =>
          rw [spelledAt]
          exact .emptyArray nothing_isSpace
      | cons item items =>
          have each (item' : Json) (member : item' ∈ item :: items) :=
            parts item' member (finite item' member) (depth + 1)
          rcases List.forall_mem_cons.mp each with ⟨first, others⟩
          have array := IsText.array (isItems_spelled plain
            (plain.opening (depth + 1)) (plain.opening depth) first others)
          simpa [spelledAt] using array
  | obj fields parts =>
      rw [isFinite_obj] at finite
      cases fields with
      | nil =>
          rw [spelledAt]
          exact .emptyObject nothing_isSpace
      | cons field fields =>
          have each (field' : Text × Json) (member : field' ∈ field :: fields) :=
            parts field' member (finite field' member) (depth + 1)
          rcases List.forall_mem_cons.mp each with ⟨first, others⟩
          have object := IsText.object (isMembers_spelled field.1 plain
            (plain.opening (depth + 1)) (plain.opening depth) first others)
          simpa [spelledAt] using object

/-! ## Values with other doubles -/

/-- The words for the doubles that are not finite start with capitals. -/
theorem scans_toText (number : Binary64) :
    Scans (number.toText floatSpelling) (!number.isFinite) := by
  cases number with
  | finite negative mantissa exponent => exact (Binary64.isNumber_toText floatSpelling rfl).scans
  | infinite negative =>
      cases negative with
      | false => exact fun _ => rfl
      | true => exact fun _ => rfl
  | nan => exact fun _ => rfl

theorem scans_comma (plain : layout.IsBlank) : Scans layout.comma false := by
  rcases plain.comma with ⟨space, comma, blank⟩
  rw [comma]
  exact scans_cons (by decide) (scans_space blank)

theorem scans_colon (plain : layout.IsBlank) : Scans layout.colon false := by
  rcases plain.colon with ⟨space, colon, blank⟩
  rw [colon]
  exact scans_cons (by decide) (scans_space blank)

theorem scans_spelledItems (plain : layout.IsBlank)
    (each : ∀ item ∈ items, Scans (spelledAt spelling layout depth item) (!item.isFinite)) :
    Scans (spelledItems spelling layout depth items) (!allItems isFinitePart items) := by
  induction items with
  | nil => exact scans_nil
  | cons item items ih =>
      rcases List.forall_mem_cons.mp each with ⟨first, others⟩
      have scans := (scans_comma plain).append ((scans_space (plain.opening depth)).append
        (first.append (ih others)))
      simpa [spelledItems, allItems, isFinite] using scans

theorem scans_spelledFields (plain : layout.IsBlank)
    (each : ∀ field ∈ fields,
      Scans (spelledAt spelling layout depth field.2) (!field.2.isFinite)) :
    Scans (spelledFields spelling layout depth fields) (!allFields isFinitePart fields) := by
  induction fields with
  | nil => exact scans_nil
  | cons field fields ih =>
      rcases List.forall_mem_cons.mp each with ⟨first, others⟩
      have scans := (scans_comma plain).append ((scans_space (plain.opening depth)).append
        ((isString_spelledString spelling field.1).scans.append
          ((scans_colon plain).append (first.append (ih others)))))
      simpa [spelledFields, allFields, isFinite] using scans

/-- What is written for a value leaves a capital outside of its strings exactly if a double in the
value is not finite. -/
theorem scans_spelledAt (plain : layout.IsBlank) (value : Json) (depth : Nat) :
    Scans (spelledAt spelling layout depth value) (!value.isFinite) := by
  induction value using forall_of_parts generalizing depth with
  | null =>
      rw [spelledAt]
      exact scans_of_quiet (by decide)
  | bool value =>
      rw [spelledAt]
      cases value <;> exact scans_of_quiet (by decide)
  | int value =>
      rw [spelledAt]
      exact (isNumber_ofInt value).scans
  | float number =>
      rw [spelledAt]
      exact scans_toText number
  | str text =>
      rw [spelledAt]
      exact (isString_spelledString spelling text).scans
  | arr items parts =>
      cases items with
      | nil =>
          rw [spelledAt]
          exact scans_of_quiet (by decide)
      | cons item items =>
          rcases List.forall_mem_cons.mp fun item' member => parts item' member (depth + 1) with
            ⟨first, others⟩
          have closing : Scans [0x5D] false := scans_of_quiet (by decide)
          have opening : isQuiet 0x5B = true := by decide
          have scans := scans_cons opening
            ((scans_space (plain.opening (depth + 1))).append (first.append
              ((scans_spelledItems plain others).append
                ((scans_space (plain.opening depth)).append
                  closing))))
          simpa [spelledAt, isFinite, all, allItems, isFinitePart] using scans
  | obj fields parts =>
      cases fields with
      | nil =>
          rw [spelledAt]
          exact scans_of_quiet (by decide)
      | cons field fields =>
          rcases List.forall_mem_cons.mp fun field' member => parts field' member (depth + 1) with
            ⟨first, others⟩
          have closing : Scans [0x7D] false := scans_of_quiet (by decide)
          have opening : isQuiet 0x7B = true := by decide
          have scans := scans_cons opening
            ((scans_space (plain.opening (depth + 1))).append
              ((isString_spelledString spelling field.1).scans.append
                ((scans_colon plain).append (first.append
                  ((scans_spelledFields plain others).append
                    ((scans_space (plain.opening depth)).append
                      closing))))))
          simpa [spelledAt, isFinite, all, allFields, isFinitePart] using scans

/-- What is written for a value is a text of the grammar exactly if every double in it is finite. -/
theorem isText_written_iff (plain : layout.IsBlank) :
    IsText (value.written layout) ↔ value.isFinite = true := by
  rw [written_eq, spelled]
  constructor
  · intro isText
    by_contra infinite
    have scans : Scans (spelledAt .escaping layout 0 value) (!value.isFinite) :=
      scans_spelledAt plain value 0
    rw [Bool.eq_false_iff.mpr infinite] at scans
    exact not_isText_of_scans scans isText
  · intro finite
    exact isText_spelledAt plain value finite 0

/-! ## Characters -/

theorem printable_of_isNumberPart (part : isNumberPart c = true) : isPrintableAscii c = true := by
  rw [isNumberPart, Bool.or_eq_true] at part
  rcases part with digit | sign
  · simp only [CodePoint.isAsciiDigit, Bool.and_eq_true, decide_eq_true_eq] at digit
    simp only [isPrintableAscii, Bool.and_eq_true, decide_eq_true_eq]
    omega
  · have printable : numberMarks.all isPrintableAscii = true := by decide
    exact List.all_eq_true.mp printable c (List.contains_iff_mem.mp sign)

theorem printable_toText (number : Binary64) :
    (number.toText floatSpelling).all isPrintableAscii = true := by
  cases number with
  | finite negative mantissa exponent =>
      have finite : (Binary64.finite negative mantissa exponent).isFinite = true := rfl
      have number := Binary64.isNumber_toText floatSpelling finite
      exact List.all_eq_true.mpr fun c member =>
        printable_of_isNumberPart (List.all_eq_true.mp number.parts c member)
  | infinite negative => cases negative <;> decide
  | nan => decide

/-- What is written for a value is printable ASCII, if the separators are. -/
theorem printable_written (separators : layout.Passes isPrintableAscii) (value : Json) :
    (value.written layout).all isPrintableAscii = true := by
  have strings (text : Text) (_ : true = true) :
      (spelledString .escaping text).all isPrintableAscii = true :=
    all_spelledString (fun _ => id) fun c _ => printable_escaped c
  rw [written_eq, Json.spelled]
  exact all_spelledAt (fun _ => id) separators strings value (.inr printable_toText)
    (passes_of_forall (by simp) value) 0

theorem passes_compact : Layout.compact.Passes isPrintableAscii :=
  ⟨by decide, by decide, fun _ => rfl⟩

end Strict

end Json

end SocialMigration
