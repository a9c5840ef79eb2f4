import SocialMigration.Proofs.Decimal.FixedPoint
import SocialMigration.Proofs.Decimal.Grammar
import SocialMigration.Proofs.Decimal.Value

/-!
# Plain numerals

A plain numeral is a whole number, or one with a point and digits behind it of which the last is not
zero; it has neither a sign nor an exponent. It denotes one number only, because it is read back as
that. A coefficient whose last digit is not zero is written as a plain numeral wherever its point
stands, with zeros in front of it or behind it as need be.
-/

namespace SocialMigration

namespace Text

variable {width n : Nat}

theorem spellsDigits_map {digits : List Nat} (small : ∀ digit ∈ digits, digit < 10) :
    SpellsDigits (digits.map digitCharacter) digits := by
  rw [SpellsDigits, List.forall₂_map_left_iff, List.forall₂_same]
  exact fun digit member => (digitCharacter_facts digit (small digit member)).1

/-- A padded number has as many digits as its width, and they denote it. -/
theorem paddedNat_digits (some : 0 < width) (few : n < 10 ^ width) :
    ∃ digits, paddedNat width n = digits.map digitCharacter ∧ digits.length = width ∧
      (∀ digit ∈ digits, digit < 10) ∧ Numeral.value 10 digits = n := by
  have padded : paddedNat width n =
      (List.replicate (width - (ofNat n).length) 0 ++ Numeral.digits 10 n).map digitCharacter := by
    rw [List.map_append, List.map_replicate]
    rfl
  refine ⟨_, padded, ?_, ?_, ?_⟩
  · rw [← List.length_map digitCharacter, ← padded, length_paddedNat some few]
  · rw [List.forall_mem_append]
    refine ⟨fun digit member => ?_, Numeral.digits_lt (by decide) n⟩
    rw [List.eq_of_mem_replicate member]
    decide
  · rw [Numeral.value_append, Numeral.value_zeros, Nat.zero_mul, Nat.zero_add,
      Numeral.value_digits (by decide)]

end Text

namespace Decimal

variable {text : Text} {coefficient : Nat} {exponent : Int} {number other : ℚ}

/-- Whether a text is a plain numeral without superfluous zeros behind the point, and the number
that it denotes. -/
inductive Plain : Text → ℚ → Prop where
  | whole (n : Nat) : Plain (Text.ofNat n) n
  | pointed (n : Nat) {front : List Nat} {last : Nat}
      (small : ∀ digit ∈ front ++ [last], digit < 10)
      (nonzero : last ≠ 0) :
      Plain (Text.ofNat n ++ 0x2E :: (front ++ [last]).map Text.digitCharacter)
        (n + Numeral.value 10 (front ++ [last]) / 10 ^ (front ++ [last]).length)

/-- A plain numeral spells the number that it denotes. -/
theorem Plain.spells (plain : Plain text number) :
    ∃ coefficient exponent, Spells text false coefficient exponent ∧
      number = magnitude coefficient exponent := by
  have digits (n : Nat) : (Text.ofNat n).SpellsDigits (Numeral.digits 10 n) :=
    Text.spellsDigits_map (Numeral.digits_lt (by decide) n)
  cases plain with
  | whole n =>
      have spelled := Spells.numeral .none
        (.whole (digits n) (Numeral.digits_ne_nil 10 n)) .none
      rw [Numeral.value_digits (by decide), List.append_nil] at spelled
      exact ⟨n, _, spelled, by simp [magnitude]⟩
  | @pointed n front last small nonzero =>
      have spelled := Spells.numeral .none
        (.pointed (digits n) (Text.spellsDigits_map small) (by simp)) .none
      rw [Numeral.value_append, Numeral.value_digits (by decide), List.append_nil] at spelled
      refine ⟨_, _, spelled, ?_⟩
      rw [magnitude, zero_sub, zpow_neg, zpow_natCast, Nat.cast_add, add_mul, ← div_eq_mul_inv,
        ← div_eq_mul_inv, Nat.cast_mul, Nat.cast_pow, Nat.cast_ofNat, mul_div_cancel_right₀]
      positivity

/-- A plain numeral denotes one number only. -/
theorem Plain.unique (plain : Plain text number) (plain' : Plain text other) : number = other := by
  rcases plain.spells with ⟨coefficient, exponent, spelled, rfl⟩
  rcases plain'.spells with ⟨coefficient', exponent', spelled', rfl⟩
  cases spelled.read.symm.trans spelled'.read
  rfl

/-! ## Writing -/

/-- Zeros behind a number are digits of it. -/
theorem ofNat_mul_pow (positive : 0 < coefficient) (zeros : Nat) :
    Text.ofNat (coefficient * 10 ^ zeros) =
      Text.ofNat coefficient ++ List.replicate zeros 0x30 := by
  induction zeros with
  | zero => rw [pow_zero, Nat.mul_one, List.replicate_zero, List.append_nil]
  | succ zeros ih =>
      have big : 10 ≤ coefficient * 10 ^ zeros * 10 :=
        Nat.le_mul_of_pos_left 10 (Nat.mul_pos positive (by positivity))
      have last : Text.digitCharacter 0 = 0x30 := rfl
      rw [pow_succ, ← Nat.mul_assoc, Text.ofNat_of_le big, Nat.mul_div_cancel _ (by decide),
        Nat.mul_mod_left, ih, last, List.append_assoc, List.replicate_succ']

/-- Fixed-point notation is plain if the last digit is not zero. -/
theorem plain_fixedPoint {places : Nat} (trimmed : places = 0 ∨ coefficient % 10 ≠ 0) :
    Plain (fixedPoint coefficient places) (magnitude coefficient (-places)) := by
  rcases Nat.eq_zero_or_pos places with rfl | some
  · have whole := Plain.whole coefficient
    rw [fixedPoint, if_pos rfl, pow_zero, Nat.div_one, List.append_nil]
    simpa [magnitude] using whole
  · have nonzero := trimmed.resolve_left some.ne'
    have rest : coefficient % 10 ^ places < 10 ^ places := Nat.mod_lt _ (by positivity)
    rcases Text.paddedNat_digits some rest with ⟨digits, written, length, small, value⟩
    rcases List.eq_nil_or_concat' digits with rfl | ⟨front, last, rfl⟩
    · exact absurd length.symm some.ne'
    · have inside : last < 10 := small last (by simp)
      have final : last = coefficient % 10 := by
        rw [← Nat.mod_mod_of_dvd coefficient (dvd_pow_self 10 some.ne'), ← value,
          Numeral.value_append_singleton, Nat.mul_add_mod', Nat.mod_eq_of_lt inside]
      have number : ((coefficient / 10 ^ places : Nat) : ℚ) +
          (coefficient % 10 ^ places : Nat) / 10 ^ places = magnitude coefficient (-places) := by
        rw [magnitude, zpow_neg, zpow_natCast, ← div_eq_mul_inv, eq_div_iff (by positivity),
          add_mul, div_mul_cancel₀ _ (by positivity)]
        exact_mod_cast Nat.div_add_mod' coefficient (10 ^ places)
      have plain := Plain.pointed (coefficient / 10 ^ places) small (final ▸ nonzero)
      rw [value, length, number, ← written] at plain
      rw [fixedPoint, if_neg some.ne']
      exact plain

/-- A coefficient without zeros at its end is written as a plain numeral. -/
theorem plain_plainText (trimmed : exponent = 0 ∨ coefficient % 10 ≠ 0) :
    Plain (plainText false coefficient exponent) (magnitude coefficient exponent) := by
  rw [plainText, minus, if_neg Bool.false_ne_true, List.nil_append]
  split
  · rename_i behind
    obtain ⟨places, rfl⟩ : ∃ places : Nat, exponent = -places :=
      ⟨exponent.natAbs, by omega⟩
    rw [← sub_eq_add_neg, withPoint_ofNat]
    exact plain_fixedPoint (by omega)
  · rename_i before
    have positive : 0 < coefficient := by omega
    lift exponent to Nat using by omega with zeros
    have whole := Plain.whole (coefficient * 10 ^ zeros)
    rw [ofNat_mul_pow positive] at whole
    simpa [magnitude] using whole

/-- Zeros at the end of the digits are dropped without a change, all of them if there are rounds
enough. -/
theorem dropZeros_trimmed {rounds : Nat} (few : coefficient < 10 ^ rounds)
    (positive : 0 < coefficient) :
    (Numeral.dropZeros rounds coefficient exponent).1 % 10 ≠ 0 ∧
      magnitude (Numeral.dropZeros rounds coefficient exponent).1
        (Numeral.dropZeros rounds coefficient exponent).2 = magnitude coefficient exponent := by
  induction rounds generalizing coefficient exponent with
  | zero => omega
  | succ rounds ih =>
      rw [Numeral.dropZeros]
      split
      · rename_i zero
        have last : coefficient % 10 = 0 := by simp_all
        have same : coefficient / 10 * 10 ^ 1 = coefficient := by omega
        rcases ih (Nat.div_lt_of_lt_mul (by rwa [← pow_succ'])) (by omega) with ⟨trimmed, equal⟩
        refine ⟨trimmed, equal.trans ?_⟩
        conv => rhs; rw [← same]
        exact (magnitude_mul_pow ..).symm
      · rename_i digit
        refine ⟨?_, rfl⟩
        simp_all [positive.ne']

end Decimal

end SocialMigration
