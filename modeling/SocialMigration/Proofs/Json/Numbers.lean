import Mathlib.Data.List.TakeWhile
import SocialMigration.Json.Reader
import SocialMigration.Proofs.Settings.Literal

/-!
# Numbers written and read

An integer in decimal is read back as itself in front of anything that does not continue a number,
unless it has too many digits; and an integer that has been read has few enough of them.
-/

namespace SocialMigration

namespace Json

/-- Whether an integer has few enough digits to be read. -/
def isShort (value : Int) : Bool :=
  (Numeral.digits 10 value.natAbs).length ≤ digitLimit

/-- Whether a number ends in front of a text, which neither continues it with a digit nor goes on
with a fraction or an exponent. -/
def endsNumber : Text → Bool
  | [] => true
  | c :: _ => !(c.isAsciiDigit || c == 0x2E || c == 0x65 || c == 0x45)

variable {text rest after : Text} {n : Nat}

theorem asciiDigit_facts : ∀ digit < 10,
    (Text.digitCharacter digit).isAsciiDigit = true ∧
      (Text.digitCharacter digit).asciiDigitValue = digit ∧
      (Text.digitCharacter digit == 0x30) = (digit == 0) := by
  decide

theorem takeDigits_map {digits : List Nat} (small : ∀ digit ∈ digits, digit < 10)
    (ends : endsNumber rest = true) :
    takeDigits (digits.map Text.digitCharacter ++ rest) = (digits, rest) := by
  induction digits with
  | nil =>
      cases rest with
      | nil => rfl
      | cons c rest =>
          have other : c.isAsciiDigit = false := by
            simp only [endsNumber, Bool.not_eq_true', Bool.or_eq_false_iff] at ends
            exact ends.1.1.1
          simp [takeDigits, other]
  | cons digit digits ih =>
      rcases List.forall_mem_cons.mp small with ⟨first, others⟩
      rcases asciiDigit_facts digit first with ⟨isDigit, value, -⟩
      have tail := ih others
      simp only [takeDigits, Prod.mk.injEq] at tail
      simp [takeDigits, isDigit, value, tail]

theorem integerPart?_ofNat (n : Nat) (ends : endsNumber rest = true) :
    integerPart? (Text.ofNat n ++ rest) = some (Numeral.digits 10 n, rest) := by
  have small : ∀ digit ∈ Numeral.digits 10 n, digit < 10 := Numeral.digits_lt (by decide) n
  rcases Nat.eq_zero_or_pos n with rfl | positive
  · rfl
  · have head : ∃ first others, Numeral.digits 10 n = first :: others ∧ 0 < first :=
      Numeral.digits_head_pos (by decide) positive
    rcases head with ⟨first, others, same, leading⟩
    have taken := takeDigits_map small ends
    rw [Text.ofNat]
    rw [same] at small taken ⊢
    rcases asciiDigit_facts first (small first List.mem_cons_self) with ⟨isDigit, -, isZero⟩
    have nonzero : (first == 0) = false := by simpa using Nat.ne_of_gt leading
    simp only [List.map_cons, List.cons_append] at taken ⊢
    simp [integerPart?, isZero, nonzero, isDigit, taken]

theorem fractionPart?_of_ends (ends : endsNumber text = true) : fractionPart? text = none := by
  cases text with
  | nil => rfl
  | cons c rest =>
      have other : (c == 0x2E) = false := by
        simp only [endsNumber, Bool.not_eq_true', Bool.or_eq_false_iff] at ends
        exact ends.1.1.2
      rw [fractionPart?]
      split
      · rfl
      · rw [other]
        rfl

theorem exponentPart?_of_ends (ends : endsNumber text = true) : exponentPart? text = none := by
  cases text with
  | nil => rfl
  | cons c rest =>
      simp only [endsNumber, Bool.not_eq_true', Bool.or_eq_false_iff] at ends
      simp [exponentPart?, ends]

theorem ofNat_ne_minus (n : Nat) : ∀ c ∈ Text.ofNat n, c ≠ 0x2D :=
  Text.forall_mem_ofNat n fun digit small => (Text.digitCharacter_facts digit small).2.2.1

/-- What holds of the digits and the minus sign holds of every character of an integer. -/
theorem forall_mem_ofInt {property : CodePoint → Prop} (value : Int)
    (ofDigits : ∀ digit < 10, property (Text.digitCharacter digit)) (minus : property 0x2D) :
    ∀ c ∈ Text.ofInt value, property c := by
  cases value with
  | ofNat n => exact Text.forall_mem_ofNat n ofDigits
  | negSucc n => exact List.forall_mem_cons.mpr ⟨minus, Text.forall_mem_ofNat (n + 1) ofDigits⟩

theorem ofInt_ne_nil (value : Int) : Text.ofInt value ≠ [] := by
  cases value with
  | ofNat n => exact Text.ofNat_ne_nil n
  | negSucc n => exact List.cons_ne_nil _ _

/-- No word starts like an integer: only one starts with a minus sign, and no digit follows. -/
theorem readWord?_ofInt (value : Int) (rest : Text) :
    readWord? (Text.ofInt value ++ rest) = none := by
  have facts : ∀ entry ∈ words, ∀ digit < 10, 2 ≤ entry.1.length ∧
      entry.1.take 1 ≠ [Text.digitCharacter digit] ∧
      entry.1.take 2 ≠ [0x2D, Text.digitCharacter digit] := by decide
  have other : ∀ entry ∈ words, ¬entry.1 <+: Text.ofInt value ++ rest := by
    rintro entry member ⟨tail, same⟩
    have digits (n : Nat) : ∀ c ∈ Text.ofNat n, ∃ digit < 10, c = Text.digitCharacter digit :=
      Text.forall_mem_ofNat n fun digit small => ⟨digit, small, rfl⟩
    have long := (facts entry member 0 (by decide)).1
    cases value with
    | ofNat n =>
        rw [Text.ofInt] at same
        cases written : Text.ofNat n with
        | nil => exact Text.ofNat_ne_nil n written
        | cons c after =>
            rcases digits n c (by simp [written]) with ⟨digit, small, rfl⟩
            have front := congrArg (List.take 1) same
            rw [List.take_append_of_le_length (by omega), written] at front
            exact (facts entry member digit small).2.1 front
    | negSucc n =>
        rw [Text.ofInt] at same
        cases written : Text.ofNat (n + 1) with
        | nil => exact Text.ofNat_ne_nil _ written
        | cons c after =>
            rcases digits (n + 1) c (by simp [written]) with ⟨digit, small, rfl⟩
            have front := congrArg (List.take 2) same
            rw [List.take_append_of_le_length long, written] at front
            exact (facts entry member digit small).2.2 front
  rw [readWord?, List.findSome?_eq_none_iff]
  intro entry member
  have apart : entry.1.isPrefixOf (Text.ofInt value ++ rest) = false := by
    rw [Bool.eq_false_iff, Ne, List.isPrefixOf_iff_prefix]
    exact other entry member
  simp [Text.afterPrefix?, apart]

/-- An integer that is not too long is read back in front of anything that ends it. -/
theorem readNumber?_ofInt {value : Int} (short : isShort value = true)
    (ends : endsNumber rest = true) :
    readNumber? (Text.ofInt value ++ rest) = some (.ok (.int value, rest)) := by
  have noFraction := fractionPart?_of_ends ends
  have noExponent := exponentPart?_of_ends ends
  rw [isShort, decide_eq_true_eq] at short
  cases value with
  | ofNat n =>
      have read := integerPart?_ofNat n ends
      have denoted : Numeral.value 10 (Numeral.digits 10 n) = n :=
        Numeral.value_digits (by decide) n
      have few : ¬digitLimit < (Numeral.digits 10 n).length := Nat.not_lt.mpr short
      rw [Text.ofInt]
      cases written : Text.ofNat n with
      | nil => exact absurd written (Text.ofNat_ne_nil n)
      | cons c others =>
          rw [written] at read
          have unsigned : (c == 0x2D) = false :=
            beq_eq_false_iff_ne.mpr (ofNat_ne_minus n c (by simp [written]))
          simp only [List.cons_append] at read ⊢
          simp [readNumber?, unsigned, read, noFraction, noExponent, denoted, few]
  | negSucc n =>
      have read := integerPart?_ofNat (n + 1) ends
      have denoted : Numeral.value 10 (Numeral.digits 10 (n + 1)) = n + 1 :=
        Numeral.value_digits (by decide) (n + 1)
      have few : ¬digitLimit < (Numeral.digits 10 (n + 1)).length := Nat.not_lt.mpr short
      simp only [Text.ofInt, List.cons_append]
      simp [readNumber?, read, noFraction, noExponent, denoted, few]
      omega

/-! ## Numbers that are read -/

theorem suffix_of_takeDigits (text : Text) : (takeDigits text).2 <:+ text :=
  List.dropWhile_suffix _

theorem takeDigits_lt (text : Text) : ∀ digit ∈ (takeDigits text).1, digit < 10 := by
  intro digit member
  rcases List.mem_map.mp member with ⟨c, taken, rfl⟩
  have isDigit := List.mem_takeWhile_imp taken
  simp only [CodePoint.isAsciiDigit, Bool.and_eq_true, decide_eq_true_eq] at isDigit
  simp only [CodePoint.asciiDigitValue]
  omega

/-- The integer part of a number is at least one digit. -/
theorem integerPart?_ok {digits : List Nat} (found : integerPart? text = some (digits, rest)) :
    rest <:+ text ∧ digits ≠ [] ∧ ∀ digit ∈ digits, digit < 10 := by
  cases text with
  | nil => exact nomatch found
  | cons c tail =>
      rw [integerPart?] at found
      split at found
      · cases found
        exact ⟨List.suffix_cons .., List.cons_ne_nil _ _, by simp⟩
      split at found
      · rename_i isDigit
        have taken : takeDigits (c :: tail) = (digits, rest) := Option.some.inj found
        have shorter := suffix_of_takeDigits (c :: tail)
        have small := takeDigits_lt (c :: tail)
        have more : (takeDigits (c :: tail)).1 ≠ [] := by simp [takeDigits, isDigit]
        rw [taken] at shorter small more
        exact ⟨shorter, more, small⟩
      · exact nomatch found

theorem suffix_of_fractionPart? {digits : List Nat}
    (found : fractionPart? text = some (digits, rest)) : rest <:+ text := by
  cases text with
  | nil => exact nomatch found
  | cons c tail =>
      have shorter := suffix_of_takeDigits tail
      rw [fractionPart?] at found
      split at found
      · exact nomatch found
      split at found
      · rw [Option.some.inj found] at shorter
        exact shorter.trans (List.suffix_cons ..)
      · exact nomatch found

theorem suffix_of_splitSign (text : Text) : text.splitSign.2 <:+ text := by
  cases text with
  | nil => exact List.suffix_refl _
  | cons c tail =>
      rw [Text.splitSign]
      split
      · exact List.suffix_cons ..
      split
      · exact List.suffix_cons ..
      · exact List.suffix_refl _

theorem suffix_of_exponentPart? {exponent : Int}
    (found : exponentPart? text = some (exponent, rest)) : rest <:+ text := by
  cases text with
  | nil => exact nomatch found
  | cons c tail =>
      rw [exponentPart?] at found
      split at found
      · have signed := suffix_of_splitSign tail
        have shorter := suffix_of_takeDigits (Text.splitSign tail).2
        simp only at found
        split at found
        · exact nomatch found
        · rename_i digits after same
          rw [same] at shorter
          rcases Prod.mk.inj (Option.some.inj found) with ⟨-, rfl⟩
          exact (shorter.trans signed).trans (List.suffix_cons ..)
      · exact nomatch found

theorem suffix_of_fraction (text : Text) : ((fractionPart? text).getD ([], text)).2 <:+ text := by
  cases found : fractionPart? text with
  | none => exact List.suffix_refl _
  | some found' => exact suffix_of_fractionPart? found

/-- The integer that a few digits denote, with either sign, is short. -/
theorem isShort_value {digits : List Nat} (negative : Bool) (small : ∀ digit ∈ digits, digit < 10)
    (nonempty : digits ≠ []) (few : digits.length ≤ digitLimit) :
    isShort (if negative then -(Numeral.value 10 digits : Int) else Numeral.value 10 digits) =
      true := by
  have size : (if negative then -(Numeral.value 10 digits : Int)
      else Numeral.value 10 digits).natAbs = Numeral.value 10 digits := by
    split <;> simp
  rw [isShort, size, decide_eq_true_eq]
  exact Nat.le_trans (Numeral.length_digits_le (by decide) (List.length_pos_iff.mpr nonempty)
    (Numeral.value_lt small)) few

/-- A number that is read is a double, or an integer that has few enough digits. -/
theorem readNumber?_ok {value : Json} (read : readNumber? text = some (.ok (value, rest))) :
    rest <:+ text ∧ ((∃ number, value = .float number) ∨
      ∃ number, value = .int number ∧ isShort number = true) := by
  unfold readNumber? at read
  split at read
  rename_i negative unsigned sign
  have afterSign : unsigned <:+ text := by
    cases text with
    | nil =>
        cases sign
        exact List.suffix_refl _
    | cons c tail =>
        simp only at sign
        split at sign
        · cases sign
          exact List.suffix_cons ..
        · cases sign
          exact List.suffix_refl _
  split at read
  · exact nomatch read
  rename_i whole left found
  rcases integerPart?_ok found with ⟨shorter, nonempty, small⟩
  have fraction := ((suffix_of_fraction left).trans shorter).trans afterSign
  simp only at read
  split at read
  · rename_i exponent after exponentFound
    simp only [Option.isNone_some, Bool.and_false, Bool.false_eq_true, if_false] at read
    rcases Prod.mk.inj (Except.ok.inj (Option.some.inj read)) with ⟨rfl, rfl⟩
    exact ⟨(suffix_of_exponentPart? exponentFound).trans fraction, .inl ⟨_, rfl⟩⟩
  · split at read
    · split at read
      · exact nomatch read
      · rename_i few
        rcases Prod.mk.inj (Except.ok.inj (Option.some.inj read)) with ⟨rfl, rfl⟩
        exact ⟨fraction,
          .inr ⟨_, rfl, isShort_value negative small nonempty (Nat.le_of_not_lt few)⟩⟩
    · rcases Prod.mk.inj (Except.ok.inj (Option.some.inj read)) with ⟨rfl, rfl⟩
      exact ⟨fraction, .inl ⟨_, rfl⟩⟩

end Json

end SocialMigration
