import Mathlib.Data.List.Forall2
import Mathlib.Data.List.TakeWhile
import SocialMigration.Decimal.Arithmetic
import SocialMigration.Decimal.Reader
import SocialMigration.Proofs.Settings.Literal

/-!
# The grammar of numbers

How a finite number may be written: an optional sign, digits of any scripts with at most one point
among them, and an exponent if one follows. Whatever is written so is read as the number that it
spells, and nothing else is read as a finite number. A numeral holds no blanks, so those around it
are trimmed and nothing else is.
-/

namespace SocialMigration

namespace Text

variable {text rest before after : Text} {digits : List Nat}

/-- Whether a text consists of digits, of any scripts, that have the values `digits`. -/
def SpellsDigits (text : Text) (digits : List Nat) : Prop :=
  List.Forall₂ (fun c digit => c.digitValue? = some digit) text digits

/-- Whether no digit stands at the start of a text. -/
def EndsDigits (rest : Text) : Prop :=
  ∀ c ∈ rest.head?, c.digitValue? = none

theorem endsDigits_nil : EndsDigits [] := by
  simp [EndsDigits]

theorem EndsDigits.spanDigits (ends : rest.EndsDigits) : rest.spanDigits = ([], rest) := by
  cases rest with
  | nil => rfl
  | cons c rest => rw [Text.spanDigits, ends c rfl]

/-- The digits in front of a text that starts with none are found, and nothing more. -/
theorem SpellsDigits.spanDigits (spelled : text.SpellsDigits digits) (ends : rest.EndsDigits) :
    Text.spanDigits (text ++ rest) = (digits, rest) := by
  induction spelled with
  | nil => exact ends.spanDigits
  | cons first _ ih =>
      rw [List.cons_append, Text.spanDigits, first]
      simp only [ih]

/-- The digits of the scripts are not among the blanks. -/
theorem isBlank_of_digit {c : CodePoint} {digit : Nat} (value : c.digitValue? = some digit) :
    c.isBlank = false := by
  have apart : ∀ first ∈ CodePoint.digitZeros, ∀ range ∈ CodePoint.blankRanges,
      range.2 < first ∨ first + 9 < range.1 := by decide
  rcases Option.map_eq_some_iff.mp value with ⟨first, found, -⟩
  have listed := List.mem_of_find?_eq_some found
  have inside := List.find?_some found
  simp only [Bool.and_eq_true, decide_eq_true_eq] at inside
  rw [CodePoint.isBlank, CodePoint.within, List.any_eq_false]
  intro range member
  have := apart first listed range member
  simp only [Bool.and_eq_true, decide_eq_true_eq]
  omega

/-- Neither signs nor the point are digits. -/
theorem ne_of_digit {c : CodePoint} {digit : Nat} (value : c.digitValue? = some digit) :
    c ≠ 0x2D ∧ c ≠ 0x2B ∧ c ≠ 0x2E := by
  refine ⟨?_, ?_, ?_⟩ <;> rintro rfl <;> exact nomatch value

theorem SpellsDigits.solid (spelled : text.SpellsDigits digits) :
    ∀ c ∈ text, c.isBlank = false := by
  induction spelled with
  | nil => simp
  | cons first _ ih => exact List.forall_mem_cons.mpr ⟨isBlank_of_digit first, ih⟩

/-- Blanks around a text without blanks are trimmed. -/
theorem trim_append (blank : ∀ c ∈ before, c.isBlank = true)
    (blank' : ∀ c ∈ after, c.isBlank = true) (solid : ∀ c ∈ text, c.isBlank = false)
    (some : text ≠ []) : trim (before ++ text ++ after) = text := by
  have start : trimStart (before ++ text ++ after) = text ++ after := by
    rw [trimStart, List.append_assoc, List.dropWhile_append_of_pos blank]
    cases text with
    | nil => exact absurd rfl some
    | cons c text =>
        rw [List.cons_append, List.dropWhile_cons_of_neg (by simp [solid c List.mem_cons_self])]
  rw [trim, start, trimEnd, List.reverse_append,
    List.dropWhile_append_of_pos (by simpa using blank'), dropWhile_eq_self (by simpa using solid),
    List.reverse_reverse]

/-- Whatever digits are found at the start of a text are spelled there. -/
theorem spelled_of_spanDigits (found : text.spanDigits = (digits, rest)) :
    ∃ front, text = front ++ rest ∧ front.SpellsDigits digits := by
  induction text generalizing digits with
  | nil =>
      cases found
      exact ⟨[], rfl, .nil⟩
  | cons c text ih =>
      rw [Text.spanDigits] at found
      cases value : c.digitValue? with
      | none =>
          rw [value] at found
          cases found
          exact ⟨[], rfl, .nil⟩
      | some digit =>
          cases remaining : Text.spanDigits text with
          | mk others after =>
              rw [value, remaining] at found
              cases found
              rcases ih remaining with ⟨front, rfl, spelled⟩
              exact ⟨c :: front, rfl, .cons value spelled⟩

end Text

namespace Decimal

variable {text : Text} {negative : Bool} {coefficient places : Nat} {exponent : Int}

/-- An optional sign, and whether it is a minus. -/
inductive Sign : Text → Bool → Prop where
  | none : Sign [] false
  | plus : Sign [0x2B] false
  | minus : Sign [0x2D] true

/-- At least one digit and at most one point: the number that all digits denote, and how many of
them stand behind the point. -/
inductive Mantissa : Text → Nat → Nat → Prop where
  | whole {text : Text} {digits : List Nat} (spelled : text.SpellsDigits digits)
      (some : digits ≠ []) : Mantissa text (Numeral.value 10 digits) 0
  | pointed {front back : Text} {whole fraction : List Nat} (spelled : front.SpellsDigits whole)
      (spelled' : back.SpellsDigits fraction) (some : whole ++ fraction ≠ []) :
      Mantissa (front ++ 0x2E :: back) (Numeral.value 10 (whole ++ fraction)) fraction.length

/-- An optional exponent; none written is zero. -/
inductive Power : Text → Int → Prop where
  | none : Power [] 0
  | written {letter : CodePoint} {sign text : Text} {negative : Bool} {digits : List Nat}
      (marked : letter = 0x65 ∨ letter = 0x45) (signed : Sign sign negative)
      (spelled : text.SpellsDigits digits) (some : digits ≠ []) :
      Power (letter :: (sign ++ text)) (signedCoefficient negative (Numeral.value 10 digits))

/-- Whether a text spells a finite number. -/
inductive Spells : Text → Bool → Nat → Int → Prop where
  | numeral {sign digits power : Text} {negative : Bool} {coefficient places : Nat} {exponent : Int}
      (signed : Sign sign negative) (mantissa : Mantissa digits coefficient places)
      (raised : Power power exponent) :
      Spells (sign ++ (digits ++ power)) negative coefficient (exponent - places)

/-! ## Reading -/

theorem Sign.splitSign {sign rest : Text} (signed : Sign sign negative)
    (unsigned : ∀ c ∈ rest.head?, c ≠ 0x2D ∧ c ≠ 0x2B) :
    Text.splitSign (sign ++ rest) = (negative, rest) := by
  cases signed with
  | none =>
      cases rest with
      | nil => rfl
      | cons c rest =>
          rcases unsigned c rfl with ⟨minus, plus⟩
          simp [Text.splitSign, minus, plus]
  | plus => rfl
  | minus => rfl

theorem Sign.solid {sign : Text} (signed : Sign sign negative) :
    ∀ c ∈ sign, c.isBlank = false := by
  cases signed with
  | none => simp
  | plus | minus => exact List.forall_mem_singleton.mpr (by decide)

/-- A mantissa starts with a digit or with the point. -/
theorem Mantissa.unsigned (mantissa : Mantissa text coefficient places) (rest : Text) :
    ∀ c ∈ (text ++ rest).head?, c ≠ 0x2D ∧ c ≠ 0x2B := by
  cases mantissa with
  | whole spelled some =>
      cases spelled with
      | nil => exact absurd rfl some
      | cons first _ =>
          rintro _ ⟨⟩
          exact ⟨(Text.ne_of_digit first).1, (Text.ne_of_digit first).2.1⟩
  | pointed spelled _ _ =>
      cases spelled with
      | nil =>
          rintro _ ⟨⟩
          decide
      | cons first _ =>
          rintro _ ⟨⟩
          exact ⟨(Text.ne_of_digit first).1, (Text.ne_of_digit first).2.1⟩

theorem Mantissa.solid (mantissa : Mantissa text coefficient places) :
    ∀ c ∈ text, c.isBlank = false := by
  cases mantissa with
  | whole spelled _ => exact spelled.solid
  | pointed spelled spelled' _ =>
      rw [List.forall_mem_append, List.forall_mem_cons]
      exact ⟨spelled.solid, by decide, spelled'.solid⟩

theorem Mantissa.ne_nil (mantissa : Mantissa text coefficient places) : text ≠ [] := by
  cases mantissa with
  | whole spelled some =>
      rintro rfl
      exact some (List.forall₂_nil_left_iff.mp spelled)
  | pointed _ _ _ => simp

/-- No digit and no point stands where an exponent may start. -/
theorem Power.head (raised : Power text exponent) :
    text.EndsDigits ∧ ∀ c ∈ text.head?, c ≠ 0x2E := by
  cases raised with
  | none => exact ⟨Text.endsDigits_nil, by simp⟩
  | written marked _ _ _ =>
      constructor <;> rintro _ ⟨⟩ <;> rcases marked with rfl | rfl <;> decide

theorem Power.solid (raised : Power text exponent) : ∀ c ∈ text, c.isBlank = false := by
  cases raised with
  | none => simp
  | written marked signed spelled _ =>
      rw [List.forall_mem_cons, List.forall_mem_append]
      refine ⟨?_, signed.solid, spelled.solid⟩
      rcases marked with rfl | rfl <;> decide

/-- The digits of a mantissa are found in front of an exponent. -/
theorem Mantissa.readDigits (mantissa : Mantissa text coefficient places) {rest : Text}
    (raised : Power rest exponent) :
    ∃ whole fraction, Decimal.readDigits (text ++ rest) = (whole, fraction, rest) ∧
      whole ++ fraction ≠ [] ∧ coefficient = Numeral.value 10 (whole ++ fraction) ∧
      places = fraction.length := by
  rcases raised.head with ⟨ends, unpointed⟩
  cases mantissa with
  | @whole _ digits spelled some =>
      refine ⟨digits, [], ?_, by simpa using some, by rw [List.append_nil], rfl⟩
      rw [Decimal.readDigits, spelled.spanDigits ends]
      cases rest with
      | nil => rfl
      | cons c rest => simp [unpointed c rfl]
  | @pointed front back whole fraction spelled spelled' some =>
      refine ⟨whole, fraction, ?_, some, rfl, rfl⟩
      have point : Text.EndsDigits (0x2E :: (back ++ rest)) := by
        rintro _ ⟨⟩
        decide
      rw [List.append_assoc, List.cons_append, Decimal.readDigits, spelled.spanDigits point]
      simp [spelled'.spanDigits ends]

theorem Power.read (raised : Power text exponent) : readExponent? text = some exponent := by
  cases raised with
  | none => rfl
  | @written letter sign text negative digits marked signed spelled some =>
      have unsigned := (Mantissa.whole spelled some).unsigned []
      have digitsOnly := spelled.spanDigits Text.endsDigits_nil
      rw [List.append_nil] at unsigned digitsOnly
      have nonempty := (Mantissa.whole spelled some).ne_nil
      have isLetter : (letter == 0x65 || letter == 0x45) = true := by
        rcases marked with rfl | rfl <;> decide
      rw [readExponent?, if_pos isLetter, signed.splitSign unsigned]
      simp [nonempty, wholeDigits?, digitsOnly, signedCoefficient]

/-- What spells a finite number is read as that number. -/
theorem Spells.read (spelled : Spells text negative coefficient exponent) :
    Decimal.read? text = some (.finite negative coefficient exponent) := by
  cases spelled with
  | numeral signed mantissa raised =>
      rcases mantissa.readDigits raised with ⟨whole, fraction, digits, some, rfl, rfl⟩
      rw [Decimal.read?, signed.splitSign (mantissa.unsigned _)]
      simp [readFinite?, digits, raised.read, some]

/-- Nothing but the blanks around a numeral is trimmed. -/
theorem Spells.trim (spelled : Spells text negative coefficient exponent) {before after : Text}
    (blank : ∀ c ∈ before, c.isBlank = true) (blank' : ∀ c ∈ after, c.isBlank = true) :
    Text.trim (before ++ text ++ after) = text := by
  cases spelled with
  | numeral signed mantissa raised =>
      apply Text.trim_append blank blank'
      · rw [List.forall_mem_append, List.forall_mem_append]
        exact ⟨signed.solid, mantissa.solid, raised.solid⟩
      · simp [mantissa.ne_nil]

/-! ## Nothing else is read -/

theorem Sign.of_splitSign {text rest : Text} (split : text.splitSign = (negative, rest)) :
    ∃ sign, text = sign ++ rest ∧ Sign sign negative := by
  cases text with
  | nil =>
      cases split
      exact ⟨[], rfl, .none⟩
  | cons c text =>
      rw [Text.splitSign] at split
      split_ifs at split with minus plus
      · cases split
        exact ⟨[c], rfl, eq_of_beq minus ▸ .minus⟩
      · cases split
        exact ⟨[c], rfl, eq_of_beq plus ▸ .plus⟩
      · cases split
        exact ⟨[], rfl, .none⟩

/-- What is read as a number of digits is nothing but digits. -/
theorem spelled_of_wholeDigits? {size : Nat} (read : wholeDigits? text = some size) :
    ∃ digits, text.SpellsDigits digits ∧ size = Numeral.value 10 digits := by
  rw [wholeDigits?] at read
  split at read
  · rename_i digits found
    cases read
    rcases Text.spelled_of_spanDigits found with ⟨front, rfl, spelled⟩
    exact ⟨digits, by rwa [List.append_nil], rfl⟩
  · exact nomatch read

theorem Power.of_read (read : readExponent? text = some exponent) : Power text exponent := by
  cases text with
  | nil =>
      cases read
      exact .none
  | cons letter rest =>
      cases split : Text.splitSign rest with
      | mk negative digits =>
          rcases Sign.of_splitSign split with ⟨sign, rfl, signed⟩
          simp only [readExponent?, split] at read
          split at read
          · rename_i marked
            split at read
            · exact nomatch read
            · rename_i nonempty
              cases whole : wholeDigits? digits with
              | none =>
                  rw [whole] at read
                  exact nomatch read
              | some size =>
                  rcases spelled_of_wholeDigits? whole with ⟨values, spelled, rfl⟩
                  rw [whole] at read
                  cases read
                  have some : values ≠ [] := by
                    rintro rfl
                    exact nonempty (List.isEmpty_iff.mpr (List.forall₂_nil_right_iff.mp spelled))
                  exact .written (by simpa using marked) signed spelled some
          · exact nomatch read

end Decimal

end SocialMigration
