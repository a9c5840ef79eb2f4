import SocialMigration.Proofs.Numeral
import SocialMigration.Settings.Literal

/-!
# Numbers written and read

A natural number that is written in decimal as the value of a setting is read back as itself, unless
it has too many digits to be read at all.
-/

namespace SocialMigration

namespace Text

/-- The characters of decimal digits: each is a digit, and neither a blank nor a sign nor a space.
-/
theorem digitCharacter_facts : ∀ digit < 10,
    (digitCharacter digit).digitValue? = some digit ∧ (digitCharacter digit).isBlank = false ∧
      digitCharacter digit ≠ 0x2D ∧ digitCharacter digit ≠ 0x2B ∧ digitCharacter digit ≠ 0x20 := by
  decide

theorem ofNat_ne_nil (n : Nat) : ofNat n ≠ [] := by
  simpa [ofNat] using Numeral.digits_ne_nil 10 n

/-- What holds of the character of every digit holds of every character of a decimal text. -/
theorem forall_mem_ofNat {property : CodePoint → Prop} (n : Nat)
    (ofDigits : ∀ digit < 10, property (digitCharacter digit)) :
    ∀ c ∈ ofNat n, property c := by
  intro c member
  rcases List.mem_map.mp member with ⟨digit, inside, rfl⟩
  exact ofDigits digit (Numeral.digits_lt (by decide) n digit inside)

theorem dropWhile_eq_self {test : CodePoint → Bool} {text : Text}
    (none : ∀ c ∈ text, test c = false) : text.dropWhile test = text := by
  cases text with
  | nil => rfl
  | cons c rest => rw [List.dropWhile_cons_of_neg (by simp [none c List.mem_cons_self])]

/-- A text without blanks is not trimmed. -/
theorem trim_eq_self {text : Text} (solid : ∀ c ∈ text, c.isBlank = false) : text.trim = text := by
  rw [trim, trimStart, dropWhile_eq_self solid, trimEnd, dropWhile_eq_self, List.reverse_reverse]
  simpa using solid

theorem trim_ofNat (n : Nat) : (ofNat n).trim = ofNat n :=
  trim_eq_self (forall_mem_ofNat n fun digit small => (digitCharacter_facts digit small).2.1)

end Text

namespace Settings

open Text (digitCharacter digitCharacter_facts)

theorem moreDigits?_map {digits : List Nat} (small : ∀ digit ∈ digits, digit < 10) :
    moreDigits? (digits.map digitCharacter) = some digits := by
  induction digits with
  | nil => rfl
  | cons digit digits ih =>
      rcases List.forall_mem_cons.mp small with ⟨first, rest⟩
      rw [List.map_cons, moreDigits?.eq_def]
      simp [(digitCharacter_facts digit first).1, ih rest]

theorem literalDigits?_ofNat (n : Nat) :
    literalDigits? (Text.ofNat n) = some (Numeral.digits 10 n) := by
  have small : ∀ digit ∈ Numeral.digits 10 n, digit < 10 := Numeral.digits_lt (by decide) n
  rw [Text.ofNat]
  cases digits : Numeral.digits 10 n with
  | nil => exact absurd digits (Numeral.digits_ne_nil 10 n)
  | cons digit rest =>
      rw [digits] at small
      rcases List.forall_mem_cons.mp small with ⟨first, others⟩
      rw [List.map_cons, literalDigits?, (digitCharacter_facts digit first).1]
      simp [moreDigits?_map others]

theorem splitSign_ofNat (n : Nat) : (Text.ofNat n).splitSign = (false, Text.ofNat n) := by
  have unsigned : ∀ c ∈ Text.ofNat n, c ≠ 0x2D ∧ c ≠ 0x2B := Text.forall_mem_ofNat n
    fun digit small => ⟨(digitCharacter_facts digit small).2.2.1,
      (digitCharacter_facts digit small).2.2.2.1⟩
  cases text : Text.ofNat n with
  | nil => rfl
  | cons c rest =>
      rcases unsigned c (by simp [text]) with ⟨minus, plus⟩
      simp [Text.splitSign, minus, plus]

/-- A natural number in decimal is read as itself if it is not too long. -/
theorem integer?_ofNat (n : Nat) :
    integer? (Text.ofNat n) =
      if digitLimit < (Numeral.digits 10 n).length then none else some (n : Int) := by
  simp [integer?, splitSign_ofNat, literalDigits?_ofNat, Numeral.value_digits]

theorem eq_of_integer?_ofNat {n : Nat} {value : Int}
    (read : integer? (Text.ofNat n).trim = some value) : value = n := by
  rw [Text.trim_ofNat, integer?_ofNat] at read
  split at read
  · exact nomatch read
  · exact (Option.some.inj read).symm

end Settings

end SocialMigration
