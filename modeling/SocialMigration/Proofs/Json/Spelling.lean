import SocialMigration.Proofs.Json.Legible

/-!
# Spelled values

The text of a value depends on a layout and on how the code points in its strings are spelled. What
is written here escapes all that is not printable ASCII; others write as it is all that may stand in
a string. Escapes make any text scalar, and what stands as it is makes none but scalar texts so.
-/

namespace SocialMigration

namespace Json

/-- A way to spell the code points of strings. -/
structure Spelling where
  spell : CodePoint → Text
  spells : ∀ c, Spells c (spell c)

/-- The spelling that escapes all that is not printable ASCII. -/
def Spelling.escaping : Spelling :=
  ⟨escaped, spells_escaped⟩

/-- A code point as it is, unless it has to be escaped in a string. -/
def bare (c : CodePoint) : Text :=
  if c == 0x22 || c == 0x5C || c.val < 0x20 then escaped c else [c]

theorem spells_bare (c : CodePoint) : Spells c (bare c) := by
  rw [bare]
  split
  · exact spells_escaped c
  · rename_i plain
    simp only [Bool.or_eq_true, beq_iff_eq, decide_eq_true_eq, not_or, Nat.not_lt] at plain
    exact .plain plain.1.1 plain.1.2 plain.2

/-- The spelling that escapes only what has to be. -/
def Spelling.raw : Spelling :=
  ⟨bare, spells_bare⟩

variable {spelling : Spelling} {layout : Layout} {text : Text} {c : CodePoint} {value : Json}

/-- A text as a JSON string in a spelling. -/
def spelledString (spelling : Spelling) (text : Text) : Text :=
  0x22 :: (text.flatMap spelling.spell ++ [0x22])

/-- A string is read back in every spelling. -/
theorem readQuoted_spelled (spelling : Spelling) (unpaired : text.isUnpaired = true)
    {rounds : Nat} (enough : text.length < rounds) (rest : Text) :
    readQuoted rounds (spelledString spelling text ++ rest) = .ok (text, rest) := by
  have opened : (spelledString spelling text ++ rest).tail =
      text.flatMap spelling.spell ++ 0x22 :: rest := by
    simp [spelledString]
  rw [readQuoted, opened, readString_flatMap spelling.spells unpaired enough]
  rfl

mutual

/-- The text of a value at a nesting depth. -/
def spelledAt (spelling : Spelling) (layout : Layout) (depth : Nat) : Json → Text
  | null => "null"
  | bool value => if value then "true" else "false"
  | int value => Text.ofInt value
  | float value => value.toText floatSpelling
  | str text => spelledString spelling text
  | arr [] => [0x5B, 0x5D]
  | arr (item :: items) =>
    0x5B :: (layout.opening (depth + 1) ++ (spelledAt spelling layout (depth + 1) item ++
      (spelledItems spelling layout (depth + 1) items ++ (layout.opening depth ++ [0x5D]))))
  | obj [] => [0x7B, 0x7D]
  | obj ((key, value) :: fields) =>
    0x7B :: (layout.opening (depth + 1) ++ (spelledString spelling key ++ (layout.colon ++
      (spelledAt spelling layout (depth + 1) value ++
        (spelledFields spelling layout (depth + 1) fields ++ (layout.opening depth ++ [0x7D]))))))

/-- The text of the items after the first, each with its separator. -/
def spelledItems (spelling : Spelling) (layout : Layout) (depth : Nat) : List Json → Text
  | [] => []
  | item :: items =>
    layout.comma ++ (layout.opening depth ++ (spelledAt spelling layout depth item ++
      spelledItems spelling layout depth items))

/-- The text of the fields after the first, each with its separator. -/
def spelledFields (spelling : Spelling) (layout : Layout) (depth : Nat) :
    List (Text × Json) → Text
  | [] => []
  | (key, value) :: fields =>
    layout.comma ++ (layout.opening depth ++ (spelledString spelling key ++ (layout.colon ++
      (spelledAt spelling layout depth value ++ spelledFields spelling layout depth fields))))

end

/-- The text of a value. -/
def spelled (spelling : Spelling) (layout : Layout) (value : Json) : Text :=
  spelledAt spelling layout 0 value

/-! ## What is written -/

theorem writtenString_eq (text : Text) : writtenString text = spelledString .escaping text := by
  have quote : Text.ofString "\"" = [0x22] := by decide
  rw [writtenString, quote]
  rfl

theorem brackets_eq : Text.ofString "[" = [0x5B] ∧ Text.ofString "]" = [0x5D] ∧
    Text.ofString "\x7b" = [0x7B] ∧ Text.ofString "\x7d" = [0x7D] := by
  decide

mutual

theorem writtenAt_eq (layout : Layout) (depth : Nat) :
    ∀ value, writtenAt layout depth value = spelledAt .escaping layout depth value
  | null | bool _ | int _ | float _ => by rw [writtenAt, spelledAt]
  | str text => by rw [writtenAt, spelledAt, writtenString_eq]
  | arr [] => by
      rw [writtenAt, spelledAt]
      decide
  | arr (item :: items) => by
      rw [writtenAt, spelledAt, writtenAt_eq layout _ item, writtenItems_eq layout _ items]
      simp [brackets_eq]
  | obj [] => by
      rw [writtenAt, spelledAt]
      decide
  | obj ((key, value) :: fields) => by
      rw [writtenAt, spelledAt, writtenString_eq, writtenAt_eq layout _ value,
        writtenFields_eq layout _ fields]
      simp [brackets_eq]

theorem writtenItems_eq (layout : Layout) (depth : Nat) :
    ∀ items, writtenItems layout depth items = spelledItems .escaping layout depth items
  | [] => by rw [writtenItems, spelledItems]
  | item :: items => by
      rw [writtenItems, spelledItems, writtenAt_eq layout _ item, writtenItems_eq layout _ items]
      simp

theorem writtenFields_eq (layout : Layout) (depth : Nat) :
    ∀ fields, writtenFields layout depth fields = spelledFields .escaping layout depth fields
  | [] => by rw [writtenFields, spelledFields]
  | (key, value) :: fields => by
      rw [writtenFields, spelledFields, writtenString_eq, writtenAt_eq layout _ value,
        writtenFields_eq layout _ fields]
      simp

end

/-- What is written escapes all that is not printable ASCII. -/
theorem written_eq (layout : Layout) (value : Json) :
    value.written layout = value.spelled .escaping layout :=
  writtenAt_eq layout 0 value

/-- Whether a layout sets parts apart by space only, next to the comma and the colon. -/
structure Layout.IsBlank (layout : Layout) : Prop where
  comma : ∃ space, layout.comma = 0x2C :: space ∧ space.all isSpace = true
  colon : ∃ space, layout.colon = 0x3A :: space ∧ space.all isSpace = true
  opening : ∀ depth, (layout.opening depth).all isSpace = true

theorem Layout.isBlank_spaced : spaced.IsBlank :=
  ⟨⟨[0x20], by decide, by decide⟩, ⟨[0x20], by decide, by decide⟩, fun _ => rfl⟩

theorem Layout.isBlank_compact : compact.IsBlank :=
  ⟨⟨[], by decide, rfl⟩, ⟨[], by decide, rfl⟩, fun _ => rfl⟩

theorem Layout.isBlank_indented : indented.IsBlank where
  comma := ⟨[], by decide, rfl⟩
  colon := ⟨[0x20], by decide, by decide⟩
  opening depth := by
    rw [List.all_eq_true]
    intro c member
    rcases List.mem_cons.mp member with rfl | member
    · decide
    · rw [List.eq_of_mem_replicate member]
      decide

/-- Induction on a value: what holds of an array or object if it holds of its parts holds of every
value. -/
theorem forall_of_parts {property : Json → Prop}
    (null : property null) (bool : ∀ value, property (bool value))
    (int : ∀ value, property (int value)) (float : ∀ value, property (float value))
    (str : ∀ text, property (str text))
    (arr : ∀ items, (∀ item ∈ items, property item) → property (arr items))
    (obj : ∀ fields : List (Text × Json), (∀ field ∈ fields, property field.2) →
      property (obj fields)) :
    ∀ value, property value
  | .null => null
  | .bool value => bool value
  | .int value => int value
  | .float value => float value
  | .str text => str text
  | .arr items => arr items fun item _ => forall_of_parts null bool int float str arr obj item
  | .obj fields => obj fields fun field member =>
    have : sizeOf field.2 < 1 + sizeOf fields := by
      have := List.sizeOf_lt_of_mem member
      rcases field with ⟨key, value⟩
      simp only [Prod.mk.sizeOf_spec] at this
      show sizeOf value < _
      omega
    forall_of_parts null bool int float str arr obj field.2

/-! ## Surrogates -/

/-- Whether the strings and keys of a value pass a test, not counting its parts. -/
def passesPart (test : Text → Bool) : Json → Bool
  | str text => test text
  | obj fields => fields.all fun field => test field.1
  | _ => true

/-- Whether the strings and keys of a value and of all of its parts pass a test. -/
def passes (test : Text → Bool) (value : Json) : Bool :=
  value.all (passesPart test)

/-- Whether no surrogate occurs in the strings and keys of a value. -/
def isScalar (value : Json) : Bool :=
  value.passes Text.isScalar

variable {space : Text} {test : Text → Bool} {items : List Json} {fields : List (Text × Json)}

theorem passes_arr_iff :
    (arr items).passes test = true ↔ ∀ item ∈ items, item.passes test = true := by
  simp [passes, all_arr_iff, passesPart]

theorem passes_obj_iff :
    (obj fields).passes test = true ↔
      ∀ field ∈ fields, test field.1 = true ∧ field.2.passes test = true := by
  simp only [passes, all_obj_iff, passesPart, List.all_eq_true]
  exact ⟨fun both field member => ⟨both.1 field member, both.2 field member⟩,
    fun each =>
      ⟨fun field member => (each field member).1, fun field member => (each field member).2⟩⟩

/-- A test that every text passes is passed by every value. -/
theorem passes_of_forall (each : ∀ text, test text = true) (value : Json) :
    value.passes test = true := by
  induction value using forall_of_parts with
  | null | bool _ | int _ | float _ => rfl
  | str text => exact each text
  | arr items parts => exact passes_arr_iff.mpr parts
  | obj fields parts =>
      exact passes_obj_iff.mpr fun field member => ⟨each field.1, parts field member⟩

/-! ## Code points -/

section CodePoints

variable {good : CodePoint → Bool}

/-- Whether a code point is a printable one of ASCII. -/
def isPrintableAscii (c : CodePoint) : Bool :=
  0x20 ≤ c.val && c.val < 0x7F

theorem lt_of_isPrintableAscii {c : CodePoint} (printable : isPrintableAscii c = true) :
    c.val < 0x80 := by
  simp only [isPrintableAscii, Bool.and_eq_true, decide_eq_true_eq] at printable
  omega

/-- Whether the separators of a layout consist of code points that pass a test. -/
structure Layout.Passes (good : CodePoint → Bool) (layout : Layout) : Prop where
  comma : layout.comma.all good = true
  colon : layout.colon.all good = true
  opening : ∀ depth, (layout.opening depth).all good = true

theorem all_of_blank (ascii : ∀ c : CodePoint, c.val < 0x80 → good c = true)
    (blank : space.all isSpace = true) : space.all good = true := by
  simp only [List.all_eq_true] at blank ⊢
  intro c member
  have inside := blank c member
  simp only [isSpace, Bool.or_eq_true, beq_iff_eq] at inside
  rcases inside with ((rfl | rfl) | rfl) | rfl <;> exact ascii _ (by decide)

/-- Separators that are blank pass every test that all of ASCII passes. -/
theorem Layout.IsBlank.passes (plain : layout.IsBlank)
    (ascii : ∀ c : CodePoint, c.val < 0x80 → good c = true) : layout.Passes good where
  comma := by
    rcases plain.comma with ⟨space, comma, blank⟩
    rw [comma, List.all_cons, ascii 0x2C (by decide), all_of_blank ascii blank]
    rfl
  colon := by
    rcases plain.colon with ⟨space, colon, blank⟩
    rw [colon, List.all_cons, ascii 0x3A (by decide), all_of_blank ascii blank]
    rfl
  opening depth := all_of_blank ascii (plain.opening depth)

theorem all_spelledItems (separators : layout.Passes good) {depth : Nat}
    (each : ∀ item ∈ items, (spelledAt spelling layout depth item).all good = true) :
    (spelledItems spelling layout depth items).all good = true := by
  induction items with
  | nil => rfl
  | cons item items ih =>
      rcases List.forall_mem_cons.mp each with ⟨first, others⟩
      simp only [spelledItems, List.all_append, separators.comma, separators.opening, first,
        ih others, Bool.and_self]

theorem all_spelledFields (separators : layout.Passes good) {depth : Nat}
    (each : ∀ field ∈ fields, (spelledString spelling field.1).all good = true ∧
      (spelledAt spelling layout depth field.2).all good = true) :
    (spelledFields spelling layout depth fields).all good = true := by
  induction fields with
  | nil => rfl
  | cons field fields ih =>
      rcases List.forall_mem_cons.mp each with ⟨first, others⟩
      simp only [spelledFields, List.all_append, separators.comma, separators.colon,
        separators.opening, first, ih others, Bool.and_self]

theorem all_ofInt (printable : ∀ c, isPrintableAscii c = true → good c = true) (value : Int) :
    (Text.ofInt value).all good = true := by
  have digits : ∀ digit < 10, isPrintableAscii (Text.digitCharacter digit) = true := by decide
  exact List.all_eq_true.mpr (forall_mem_ofInt value
    (fun digit small => printable _ (digits digit small)) (printable _ (by decide)))

/-- The text of a value consists of code points that pass a test, if those of its strings and keys
do, its separators do and all of printable ASCII does. Its doubles have to do so as well, if there
are any. -/
theorem all_spelledAt (printable : ∀ c, isPrintableAscii c = true → good c = true)
    (separators : layout.Passes good)
    (strings : ∀ text, test text = true → (spelledString spelling text).all good = true)
    (value : Json)
    (doubles : value.isFloatFree = true ∨
      ∀ number : Binary64, (number.toText floatSpelling).all good = true)
    (passes : value.passes test = true) (depth : Nat) :
    (spelledAt spelling layout depth value).all good = true := by
  have word (text : Text) (inside : text.all isPrintableAscii = true) : text.all good = true :=
    List.all_eq_true.mpr fun c member => printable c (List.all_eq_true.mp inside c member)
  induction value using forall_of_parts generalizing depth with
  | null =>
      rw [spelledAt]
      exact word _ (by decide)
  | bool value =>
      rw [spelledAt]
      cases value <;> exact word _ (by decide)
  | int value =>
      rw [spelledAt]
      exact all_ofInt printable value
  | float value =>
      rw [spelledAt]
      rcases doubles with doubleFree | each
      · exact nomatch doubleFree
      · exact each value
  | str text =>
      rw [spelledAt]
      exact strings text passes
  | arr items parts =>
      rw [isFloatFree_arr] at doubles
      rw [passes_arr_iff] at passes
      have each (depth : Nat) (item : Json) (member : item ∈ items) :
          (spelledAt spelling layout depth item).all good = true :=
        parts item member (doubles.imp_left fun doubleFree => doubleFree item member)
          (passes item member) depth
      cases items with
      | nil =>
          rw [spelledAt]
          exact word _ (by decide)
      | cons item items =>
          rcases List.forall_mem_cons.mp (each (depth + 1)) with ⟨first, others⟩
          have rest := all_spelledItems separators others
          have brackets : good 0x5B = true ∧ good 0x5D = true :=
            ⟨printable _ (by decide), printable _ (by decide)⟩
          simp [spelledAt, separators.opening, first, rest, brackets]
  | obj fields parts =>
      rw [isFloatFree_obj] at doubles
      rw [passes_obj_iff] at passes
      have each (depth : Nat) (field : Text × Json) (member : field ∈ fields) :
          (spelledString spelling field.1).all good = true ∧
            (spelledAt spelling layout depth field.2).all good = true := by
        rcases passes field member with ⟨key, value⟩
        exact ⟨strings field.1 key, parts field member
          (doubles.imp_left fun doubleFree => doubleFree field member) value depth⟩
      cases fields with
      | nil =>
          rw [spelledAt]
          exact word _ (by decide)
      | cons field fields =>
          rcases List.forall_mem_cons.mp (each (depth + 1)) with ⟨first, others⟩
          have rest := all_spelledFields separators others
          have braces : good 0x7B = true ∧ good 0x7D = true :=
            ⟨printable _ (by decide), printable _ (by decide)⟩
          simp [spelledAt, separators.colon, separators.opening, first, rest, braces]

theorem all_spelledString (printable : ∀ c, isPrintableAscii c = true → good c = true)
    (points : ∀ c ∈ text, (spelling.spell c).all good = true) :
    (spelledString spelling text).all good = true := by
  have quote : good 0x22 = true := printable _ (by decide)
  have spelled : (text.flatMap spelling.spell).all good = true := by
    rw [List.all_flatMap, List.all_eq_true]
    exact points
  simp [spelledString, quote, spelled]

end CodePoints

/-! ## Spellings of strings -/

theorem printable_digitCharacter :
    ∀ digit < 16, isPrintableAscii (Text.digitCharacter digit) = true := by
  decide

theorem printable_unicodeEscape {n : Nat} (small : n < 0x10000) :
    (unicodeEscape n).all isPrintableAscii = true := by
  rw [unicodeEscape, Text.hexadecimal_eq small, List.all_append, Bool.and_eq_true]
  refine ⟨by decide, ?_⟩
  simp [printable_digitCharacter (n / 4096) (by omega),
    printable_digitCharacter (n / 256 % 16) (by omega),
    printable_digitCharacter (n / 16 % 16) (by omega),
    printable_digitCharacter (n % 16) (by omega)]

/-- Escapes are printable ASCII, whatever they stand for. -/
theorem printable_escaped (c : CodePoint) : (escaped c).all isPrintableAscii = true := by
  rw [escaped]
  split
  · rename_i special
    rw [Bool.or_eq_true, beq_iff_eq, beq_iff_eq] at special
    rcases special with rfl | rfl <;> decide
  iterate 5
    split
    · decide
  split
  · rename_i printable
    simpa [isPrintableAscii] using printable
  split
  · rename_i small
    exact printable_unicodeEscape small
  · have bound := c.isLt
    rw [List.all_append, printable_unicodeEscape (by omega), printable_unicodeEscape (by omega)]
    rfl

theorem ascii_escaped (c : CodePoint) : (escaped c).all (·.val < 0x80) = true :=
  List.all_eq_true.mpr fun d member =>
    decide_eq_true (lt_of_isPrintableAscii (List.all_eq_true.mp (printable_escaped c) d member))

theorem not_surrogate_of_ascii {c : CodePoint} (small : c.val < 0x80) :
    (!c.isSurrogate) = true := by
  rw [Bool.not_eq_true', CodePoint.isSurrogate_eq_false_iff]
  omega

theorem isScalar_of_ascii (ascii : text.all (·.val < 0x80) = true) : text.isScalar = true := by
  rw [List.all_eq_true] at ascii
  exact List.all_eq_true.mpr fun c member =>
    not_surrogate_of_ascii (of_decide_eq_true (ascii c member))

/-- Where all that is not printable ASCII is escaped, the text of every value is ASCII. -/
theorem ascii_spelled_escaping (plain : layout.IsBlank) (doubleFree : value.isFloatFree = true) :
    (value.spelled .escaping layout).all (·.val < 0x80) = true := by
  have ascii (c : CodePoint) (small : c.val < 0x80) : decide (c.val < 0x80) = true :=
    decide_eq_true small
  have strings (text : Text) (_ : true = true) :
      (spelledString .escaping text).all (·.val < 0x80) = true :=
    all_spelledString (fun c printable => ascii c (lt_of_isPrintableAscii printable))
      fun c _ => ascii_escaped c
  exact all_spelledAt (fun c printable => ascii c (lt_of_isPrintableAscii printable))
    (plain.passes ascii) strings value (.inl doubleFree) (passes_of_forall (by simp) value) 0

/-- Where all that is not printable ASCII is escaped, the text of every value is scalar. -/
theorem isScalar_spelled_escaping (plain : layout.IsBlank)
    (doubleFree : value.isFloatFree = true) : (value.spelled .escaping layout).isScalar = true :=
  isScalar_of_ascii (ascii_spelled_escaping plain doubleFree)

theorem isScalar_bare (scalar : c.isSurrogate = false) : (bare c).isScalar = true := by
  rw [bare]
  split
  · exact isScalar_of_ascii (ascii_escaped c)
  · simpa using scalar

/-- Where only that is escaped which has to be, the text of a value is scalar if the value is. -/
theorem isScalar_spelled_raw (plain : layout.IsBlank) (doubleFree : value.isFloatFree = true)
    (scalar : value.isScalar = true) : (value.spelled .raw layout).isScalar = true := by
  have ascii (c : CodePoint) (small : c.val < 0x80) : (!c.isSurrogate) = true :=
    not_surrogate_of_ascii small
  have strings (text : Text) (scalar : text.isScalar = true) :
      (spelledString .raw text).isScalar = true := by
    refine all_spelledString (fun c printable => ascii c (lt_of_isPrintableAscii printable))
      fun c member => isScalar_bare ?_
    simpa using List.all_eq_true.mp scalar c member
  exact all_spelledAt (fun c printable => ascii c (lt_of_isPrintableAscii printable))
    (plain.passes ascii) strings value (.inl doubleFree) scalar 0

end Json

end SocialMigration
