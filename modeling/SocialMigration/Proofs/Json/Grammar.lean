import Mathlib.Data.List.Basic
import SocialMigration.Json.Reader

/-!
# Strict JSON

The grammar of JSON, production by production, without the words that some readers take in addition.
A reader that keeps to the grammar accepts these texts and no others.

Outside of its strings such a text holds neither of the capital letters `N` and `I`. Words for
numbers that are not finite start with one of these, so that a text with such a word is told not to
be one of the grammar.
-/

namespace SocialMigration

namespace Json

namespace Strict

/-! ## The grammar -/

/-- Decimal digits, at least one. -/
def IsDigits (text : Text) : Prop :=
  text ≠ [] ∧ ∀ c ∈ text, c.isAsciiDigit = true

/-- A whole number: a zero, or digits of which the first is none. -/
inductive IsWhole : Text → Prop where
  | zero : IsWhole [0x30]
  | digits {c : CodePoint} {rest : Text} (leading : c ≠ 0x30) (digits : IsDigits (c :: rest)) :
      IsWhole (c :: rest)

/-- The fraction of a number, which may be missing. -/
inductive IsFraction : Text → Prop where
  | none : IsFraction []
  | point {digits : Text} (isDigits : IsDigits digits) : IsFraction (0x2E :: digits)

/-- The exponent of a number, which may be missing. -/
inductive IsExponent : Text → Prop where
  | none : IsExponent []
  | letter {letter : CodePoint} {sign digits : Text} (marked : letter = 0x65 ∨ letter = 0x45)
      (signed : sign = [] ∨ sign = [0x2B] ∨ sign = [0x2D]) (isDigits : IsDigits digits) :
      IsExponent (letter :: (sign ++ digits))

/-- A number without its sign. -/
inductive IsUnsigned : Text → Prop where
  | intro {whole fraction exponent : Text} (isWhole : IsWhole whole)
      (isFraction : IsFraction fraction) (isExponent : IsExponent exponent) :
      IsUnsigned (whole ++ (fraction ++ exponent))

/-- A number. The only sign that it may have is a minus. -/
inductive IsNumber : Text → Prop where
  | unsigned {text : Text} (isUnsigned : IsUnsigned text) : IsNumber text
  | minus {text : Text} (isUnsigned : IsUnsigned text) : IsNumber (0x2D :: text)

/-- The letters that may follow a backslash, apart from that of a number. -/
def escapeLetters : List CodePoint :=
  [0x22, 0x5C, 0x2F, 0x62, 0x66, 0x6E, 0x72, 0x74]

/-- What stands between the quotes of a string for one character, or for half of one: the character,
an escape with a letter, or an escape with four hexadecimal digits. Control characters do not stand
for themselves. -/
inductive IsCharacter : Text → Prop where
  | plain {c : CodePoint} (visible : 0x20 ≤ c.val) (noQuote : c ≠ 0x22) (noBackslash : c ≠ 0x5C) :
      IsCharacter [c]
  | letter {c : CodePoint} (known : c ∈ escapeLetters) : IsCharacter [0x5C, c]
  | number {w x y z : CodePoint} (digits : ∀ c ∈ [w, x, y, z], c.hexValue?.isSome = true) :
      IsCharacter [0x5C, 0x75, w, x, y, z]

/-- A string between its quotes. -/
inductive IsString : Text → Prop where
  | quoted {characters : List Text}
      (each : ∀ character ∈ characters, IsCharacter character) :
      IsString (0x22 :: (characters.flatten ++ [0x22]))

/-- The words among the values. -/
def words : List Text := ["null", "true", "false"]

mutual

/-- A value and the space around it, which makes a text of the grammar. -/
inductive IsText : Text → Prop where
  | word {text : Text} (known : text ∈ words) : IsText text
  | number {text : Text} (isNumber : IsNumber text) : IsText text
  | string {text : Text} (isString : IsString text) : IsText text
  | emptyArray {space : Text} (blank : space.all isSpace = true) :
      IsText (0x5B :: (space ++ [0x5D]))
  | array {items : Text} (isItems : IsItems items) : IsText (0x5B :: (items ++ [0x5D]))
  | emptyObject {space : Text} (blank : space.all isSpace = true) :
      IsText (0x7B :: (space ++ [0x7D]))
  | object {members : Text} (isMembers : IsMembers members) : IsText (0x7B :: (members ++ [0x7D]))
  | spaced {before text after : Text} (blank : before.all isSpace = true) (isText : IsText text)
      (blank' : after.all isSpace = true) : IsText (before ++ (text ++ after))

/-- The items of an array, with commas between them. -/
inductive IsItems : Text → Prop where
  | last {item : Text} (isText : IsText item) : IsItems item
  | more {item items : Text} (isText : IsText item) (isItems : IsItems items) :
      IsItems (item ++ 0x2C :: items)

/-- The members of an object, with commas between them. -/
inductive IsMembers : Text → Prop where
  | last {before name after value : Text} (blank : before.all isSpace = true)
      (isString : IsString name) (blank' : after.all isSpace = true) (isText : IsText value) :
      IsMembers (before ++ (name ++ (after ++ 0x3A :: value)))
  | more {before name after value members : Text} (blank : before.all isSpace = true)
      (isString : IsString name) (blank' : after.all isSpace = true) (isText : IsText value)
      (isMembers : IsMembers members) :
      IsMembers (before ++ (name ++ (after ++ 0x3A :: (value ++ 0x2C :: members))))

end

/-! ## The characters of a number -/

/-- The signs, the point and the letters of exponents. -/
def numberMarks : List CodePoint :=
  [0x2D, 0x2B, 0x2E, 0x65, 0x45]

/-- Whether a code point may be part of a number. -/
def isNumberPart (c : CodePoint) : Bool :=
  c.isAsciiDigit || numberMarks.contains c

variable {text rest before after : Text} {c : CodePoint}

theorem IsDigits.parts (digits : IsDigits text) : text.all isNumberPart = true := by
  rw [List.all_eq_true]
  intro c member
  rw [isNumberPart, digits.2 c member, Bool.true_or]

theorem IsWhole.parts (whole : IsWhole text) : text.all isNumberPart = true := by
  cases whole with
  | zero => decide
  | digits leading digits => exact digits.parts

theorem IsFraction.parts (fraction : IsFraction text) : text.all isNumberPart = true := by
  cases fraction with
  | none => rfl
  | point digits => rw [List.all_cons, digits.parts, (by decide : isNumberPart 0x2E = true)]; rfl

theorem IsExponent.parts (exponent : IsExponent text) : text.all isNumberPart = true := by
  cases exponent with
  | none => rfl
  | letter marked signed digits =>
      rw [List.all_cons, List.all_append, digits.parts]
      rcases marked with rfl | rfl <;> rcases signed with rfl | rfl | rfl <;> decide

theorem IsUnsigned.parts (number : IsUnsigned text) : text.all isNumberPart = true := by
  rcases number with ⟨whole, fraction, exponent⟩
  rw [List.all_append, List.all_append, whole.parts, fraction.parts, exponent.parts]
  rfl

/-- A number consists of digits, signs, points and the letters of exponents. -/
theorem IsNumber.parts (number : IsNumber text) : text.all isNumberPart = true := by
  cases number with
  | unsigned number => exact number.parts
  | minus number => rw [List.all_cons, number.parts, (by decide : isNumberPart 0x2D = true)]; rfl

/-! ## Capital letters outside of strings -/

/-- Where a place of a text is: outside of strings, inside of one, or behind a backslash in one. -/
inductive Region where
  | outside
  | inside
  | escaped

/-- Where the place behind a code point is. -/
def Region.next : Region → CodePoint → Region
  | outside, c => if c == 0x22 then inside else outside
  | inside, c => if c == 0x22 then outside else if c == 0x5C then escaped else inside
  | escaped, _ => inside

/-- Whether a code point is one of the capitals, outside of strings. -/
def Region.shows : Region → CodePoint → Bool
  | outside, c => c == 0x4E || c == 0x49
  | inside, _ | escaped, _ => false

/-- Whether a capital `N` or `I` stands outside of the strings of a text. -/
def hasCapital (region : Region) : Text → Bool
  | [] => false
  | c :: rest => region.shows c || hasCapital (region.next c) rest

/-- Whether a capital of the two stands in a text, outside of its strings, each of which ends in
it. -/
def Scans (text : Text) (capital : Bool) : Prop :=
  ∀ rest, hasCapital .outside (text ++ rest) = (capital || hasCapital .outside rest)

/-- Whether a code point is neither a quote nor one of the capitals. -/
def isQuiet (c : CodePoint) : Bool :=
  c != 0x22 && c != 0x4E && c != 0x49

theorem Scans.append {capital capital' : Bool} (scans : Scans before capital)
    (scans' : Scans after capital') : Scans (before ++ after) (capital || capital') := by
  intro rest
  rw [List.append_assoc, scans, scans', Bool.or_assoc]

theorem scans_nil : Scans [] false :=
  fun _ => rfl

theorem scans_cons (quiet : isQuiet c = true) {capital : Bool} (scans : Scans text capital) :
    Scans (c :: text) capital := by
  intro rest
  simp only [isQuiet, Bool.and_eq_true, bne_iff_ne, ne_eq] at quiet
  rw [← scans rest, List.cons_append, hasCapital]
  simp [Region.shows, Region.next, quiet]

theorem scans_of_quiet (quiet : text.all isQuiet = true) : Scans text false := by
  induction text with
  | nil => exact scans_nil
  | cons c text ih =>
      rw [List.all_cons, Bool.and_eq_true] at quiet
      exact scans_cons quiet.1 (ih quiet.2)

theorem scans_space (blank : text.all isSpace = true) : Scans text false := by
  apply scans_of_quiet
  rw [List.all_eq_true] at blank ⊢
  intro c member
  have space := blank c member
  simp only [isSpace, Bool.or_eq_true, beq_iff_eq] at space
  rcases space with ((rfl | rfl) | rfl) | rfl <;> decide

theorem isQuiet_of_isNumberPart (part : isNumberPart c = true) : isQuiet c = true := by
  simp only [isQuiet, Bool.and_eq_true, bne_iff_ne, ne_eq]
  refine ⟨⟨?_, ?_⟩, ?_⟩ <;> rintro rfl <;> exact absurd part (by decide)

theorem IsNumber.scans (number : IsNumber text) : Scans text false := by
  apply scans_of_quiet
  rw [List.all_eq_true]
  intro c member
  exact isQuiet_of_isNumberPart (List.all_eq_true.mp number.parts c member)

/-- A hexadecimal digit ends no string and starts no escape. -/
theorem ne_of_hexValue? (digit : c.hexValue?.isSome = true) : c ≠ 0x22 ∧ c ≠ 0x5C := by
  constructor <;> rintro rfl <;> exact nomatch digit

/-- After a character of a string, the string goes on. -/
theorem IsCharacter.hasCapital_append (character : IsCharacter text) (rest : Text) :
    hasCapital .inside (text ++ rest) = hasCapital .inside rest := by
  cases character with
  | plain visible noQuote noBackslash =>
      simp [hasCapital, Region.shows, Region.next, noQuote, noBackslash]
  | letter known => rfl
  | number digits =>
      simp only [List.forall_mem_cons] at digits
      rcases digits with ⟨w, x, y, z, -⟩
      simp [hasCapital, Region.shows, Region.next, ne_of_hexValue? w, ne_of_hexValue? x,
        ne_of_hexValue? y, ne_of_hexValue? z]

/-- Whatever stands in a string stands inside of it, and the string ends. -/
theorem IsString.scans (string : IsString text) : Scans text false := by
  rcases string with @⟨characters, each⟩
  intro rest
  have inside :
      hasCapital .inside (characters.flatten ++ 0x22 :: rest) = hasCapital .outside rest := by
    induction characters with
    | nil => rfl
    | cons character characters ih =>
        rcases List.forall_mem_cons.mp each with ⟨first, others⟩
        rw [List.flatten_cons, List.append_assoc, first.hasCapital_append, ih others]
  rw [List.cons_append, List.append_assoc]
  exact inside

theorem scans_word (known : text ∈ words) : Scans text false := by
  apply scans_of_quiet
  revert text
  decide

mutual

/-- A text of the grammar holds neither of the capitals outside of its strings. -/
theorem IsText.scans : ∀ {text}, IsText text → Scans text false
  | _, .word known => scans_word known
  | _, .number isNumber => isNumber.scans
  | _, .string isString => isString.scans
  | _, .emptyArray blank =>
      scans_cons (by decide) ((scans_space blank).append (scans_of_quiet (by decide)))
  | _, .array isItems =>
      scans_cons (by decide) (isItems.scans.append (scans_of_quiet (by decide)))
  | _, .emptyObject blank =>
      scans_cons (by decide) ((scans_space blank).append (scans_of_quiet (by decide)))
  | _, .object isMembers =>
      scans_cons (by decide) (isMembers.scans.append (scans_of_quiet (by decide)))
  | _, .spaced blank isText blank' =>
      (scans_space blank).append (isText.scans.append (scans_space blank'))

theorem IsItems.scans : ∀ {text}, IsItems text → Scans text false
  | _, .last isText => isText.scans
  | _, .more isText isItems => isText.scans.append (scans_cons (by decide) isItems.scans)

theorem IsMembers.scans : ∀ {text}, IsMembers text → Scans text false
  | _, .last blank isString blank' isText =>
      (scans_space blank).append (isString.scans.append
        ((scans_space blank').append (scans_cons (by decide) isText.scans)))
  | _, .more blank isString blank' isText isMembers =>
      (scans_space blank).append (isString.scans.append
        ((scans_space blank').append (scans_cons (by decide)
          (isText.scans.append (scans_cons (by decide) isMembers.scans)))))

end

/-- A text in which a capital of the two stands outside of strings is none of the grammar. -/
theorem not_isText_of_scans (scans : Scans text true) : ¬IsText text := by
  intro isText
  have quiet := isText.scans []
  rw [scans []] at quiet
  exact nomatch quiet

end Strict

end Json

end SocialMigration
