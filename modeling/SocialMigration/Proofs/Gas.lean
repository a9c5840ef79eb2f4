import SocialMigration.Gas
import SocialMigration.Proofs.Decimal.Plain
import SocialMigration.Proofs.Decimal.Significant

/-!
# Amounts of gas

The text of an amount of gas is a plain numeral of Tgas. It shows the amount exactly if that has at
most 28 significant digits, and otherwise what it is rounded to; so amounts of that many digits are
told apart by their texts. No amount that can be set is too great to be shown.
-/

namespace SocialMigration

namespace Gas

open Decimal (Plain RoundsTo magnitude adjusted)
open Decimal.Context (units)

variable {gas kept : Nat} {power : Int} {shown : Option Text}
  {amount other rounded : ℚ}

/-- Whether there is a text that shows an amount of gas, as a plain numeral of Tgas. -/
def Shows (shown : Option Text) (amount : ℚ) : Prop :=
  ∃ (numeral : Text) (tgas : ℚ), shown = some (numeral ++ Text.ofString " Tgas") ∧
    Plain numeral tgas ∧ tgas * 10 ^ 12 = amount

/-- Whether an amount of gas has at most 28 significant digits. -/
def IsShort (gas : Nat) : Prop :=
  ∃ significand zeros, significand < 10 ^ 28 ∧ gas = significand * 10 ^ zeros

/-- A text shows one amount only. -/
theorem Shows.unique (shows : Shows shown amount) (shows' : Shows shown other) :
    amount = other := by
  rcases shows with ⟨numeral, tgas, rfl, plain, rfl⟩
  rcases shows' with ⟨numeral', tgas', same, plain', rfl⟩
  cases List.append_cancel_right (Option.some.inj same)
  rw [plain.unique plain']

/-- The numeral of an amount that is fitted. -/
theorem toText?_eq (fitted : units.fit false gas (-placesOfTgas) = .finite false kept power) :
    let trimmed := Numeral.dropZeros 28 kept power
    toText? gas = some ((if trimmed.1 == 0 then Decimal.plainText false 0 0
      else Decimal.plainText false trimmed.1 trimmed.2) ++ Text.ofString " Tgas") := by
  have sign : decide ((gas : Int) < 0) = false := decide_eq_false (by omega)
  simp only [toText?, sign, Int.natAbs_natCast, fitted]

/-- What an amount of gas is fitted to is written as a plain numeral. -/
theorem toText?_of_fit
    (fitted : units.fit false gas (-placesOfTgas) = .finite false kept power) :
    ∃ numeral : Text, toText? gas = some (numeral ++ Text.ofString " Tgas") ∧
      Plain numeral (magnitude kept power) := by
  have few : kept < 10 ^ 28 := Decimal.Context.fit_few (by decide) fitted
  refine ⟨_, toText?_eq fitted, ?_⟩
  rcases Nat.eq_zero_or_pos kept with rfl | positive
  · rw [Decimal.magnitude_zero, ← Decimal.magnitude_zero 0]
    exact Decimal.plain_plainText (.inl rfl)
  · rcases Decimal.dropZeros_trimmed few positive with ⟨trimmed, same⟩
    have nonzero : ((Numeral.dropZeros 28 kept power).1 == 0) = false :=
      beq_eq_false_iff_ne.mpr fun zero => trimmed (by rw [zero])
    rw [← same, nonzero]
    exact Decimal.plain_plainText (.inr trimmed)

/-- An amount of gas in Tgas is rounded to 28 digits, and never too great for that. -/
theorem fit_rounds (negative : Bool) (readable : gas < 10 ^ Settings.digitLimit) :
    ∃ rounded kept power, RoundsTo .even 28 (magnitude gas (-placesOfTgas)) rounded ∧
      units.fit negative gas (-placesOfTgas) = .finite negative kept power ∧
      magnitude kept power = rounded := by
  rcases Nat.eq_zero_or_pos gas with rfl | positive
  · refine ⟨0, 0, _, ?_, rfl, Decimal.magnitude_zero _⟩
    rw [Decimal.magnitude_zero]
    exact .zero
  · have digits := (Numeral.length_le_iff (by decide)).mpr readable
    have some := Numeral.length_pos gas
    have place : -12 ≤ adjusted gas (-placesOfTgas) ∧ adjusted gas (-placesOfTgas) < 999999 := by
      simp only [adjusted, placesOfTgas, Settings.digitLimit] at digits ⊢
      omega
    rcases units.fit_normal negative (by decide) positive (le_trans (by decide) place.1)
      place.2.le with
      ⟨rounded, rounds, ⟨-, kept, power, fitted, same⟩ | ⟨great, -⟩⟩
    · exact ⟨rounded, kept, power, rounds, fitted, same⟩
    · have less := rounds.le_pow ((Decimal.adjusted_lt_iff positive).mp place.2)
      have further : (10 : ℚ) ^ (999999 : ℤ) < 10 ^ (units.greatest + 1) :=
        zpow_lt_zpow_right₀ (by norm_num) (by decide)
      exact absurd great (not_le.mpr (less.trans_lt further))

/-- The text of an amount of gas shows what that is rounded to. -/
theorem toText?_rounds (readable : gas < 10 ^ Settings.digitLimit) :
    ∃ rounded, RoundsTo .even 28 gas rounded ∧ Shows (toText? gas) rounded := by
  rcases fit_rounds false readable with ⟨tgas, kept, power, rounds, fitted, rfl⟩
  rcases toText?_of_fit fitted with ⟨numeral, written, plain⟩
  have scaled := rounds.scale 12
  have whole : magnitude gas (-placesOfTgas) * 10 ^ (12 : ℤ) = gas := by
    rw [magnitude, mul_assoc, ← zpow_add₀ (by norm_num)]
    exact mul_one _
  rw [whole, zpow_ofNat] at scaled
  exact ⟨_, scaled, numeral, _, written, plain, rfl⟩

/-- An amount of few digits is shown as it is. -/
theorem toText?_short (readable : gas < 10 ^ Settings.digitLimit) (short : IsShort gas) :
    Shows (toText? gas) gas := by
  rcases toText?_rounds readable with ⟨rounded, rounds, shows⟩
  rcases short with ⟨significand, zeros, few, rfl⟩
  have itself := units.roundsTo_self (by decide) few zeros
  have amount : magnitude significand zeros = (significand * 10 ^ zeros : Nat) := by
    simp [magnitude]
  rw [amount] at itself
  rwa [rounds.unique itself]

theorem lt_digitLimit_of_short {digits : Nat} (few : gas < 10 ^ digits)
    (less : digits ≤ Settings.digitLimit) : gas < 10 ^ Settings.digitLimit :=
  few.trans_le (Nat.pow_le_pow_right (by decide) less)

/-- The text of an amount of gas that can be set is that amount in Tgas, rounded to 28 significant
digits, as a plain numeral. Amounts with as few digits, which all amounts of 64 bits have, are shown
exactly, and two of them never alike. -/
theorem toText?_denotes :
    (∀ gas : Nat, gas < 10 ^ Settings.digitLimit → ∃ rounded,
      (∀ other, RoundsTo .even 28 gas other ↔ other = rounded) ∧ Shows (toText? gas) rounded) ∧
    (∀ gas : Nat, gas < 10 ^ Settings.digitLimit → IsShort gas → Shows (toText? gas) gas) ∧
    (∀ gas : Nat, gas < 2 ^ 64 → Shows (toText? gas) gas) ∧
    ∀ gas gas' : Nat, gas < 10 ^ Settings.digitLimit → gas' < 10 ^ Settings.digitLimit →
      IsShort gas → IsShort gas' → toText? gas = toText? gas' → gas = gas' := by
  refine ⟨?_, fun gas => toText?_short, ?_, ?_⟩
  · intro gas readable
    rcases toText?_rounds readable with ⟨rounded, rounds, shows⟩
    exact ⟨rounded, fun other => ⟨rounds.unique, fun same => same ▸ rounds⟩, shows⟩
  · intro gas bits
    have few : gas < 10 ^ 28 := bits.trans (by decide)
    exact toText?_short (lt_digitLimit_of_short few (by decide)) ⟨gas, 0, few, by simp⟩
  · intro gas gas' readable readable' short short' same
    have shows := toText?_short readable short
    rw [same] at shows
    exact_mod_cast shows.unique (toText?_short readable' short')

/-- Of 29 digits the last is rounded to the even neighbour. -/
theorem toText?_denotes_tie :
    Shows (toText? 12345678901234567890123456785) 12345678901234567890123456780 ∧
      Shows (toText? (2 ^ 64 - 1 : Nat)) (2 ^ 64 - 1 : Nat) ∧
      toText? (10 ^ 40 : Nat) ≠ toText? (10 ^ 39 : Nat) := by
  have power (zeros : Nat) : IsShort (10 ^ zeros) := ⟨1, zeros, by decide, (one_mul _).symm⟩
  refine ⟨?_, toText?_denotes.2.2.1 (2 ^ 64 - 1) (by decide), fun same => ?_⟩
  · have half : (12345678901234567890123456785 : Nat) * 10 ^ (-1 : ℤ) =
        ((1234567890123456789012345678 : Nat) + 1 / 2 : ℚ) := by norm_num
    have near : Tie.even.Nearest ((12345678901234567890123456785 : Nat) * 10 ^ (-1 : ℤ))
        (1234567890123456789012345678 : Nat) := half ▸ IsNearestEven.of_halfway _
    have tie : RoundsTo .even 28 (12345678901234567890123456785 : Nat)
        ((1234567890123456789012345678 : Nat) * 10 ^ (1 : ℤ)) :=
      .positive (by norm_num) (by norm_num) near
    rcases toText?_denotes.1 12345678901234567890123456785
      (lt_digitLimit_of_short (by decide : _ < 10 ^ 29) (by decide)) with
      ⟨rounded, unique, shows⟩
    obtain rfl := (unique _).mp tie
    norm_num at shows
    exact shows
  · have equal := toText?_denotes.2.2.2 (10 ^ 40) (10 ^ 39)
      (lt_digitLimit_of_short (by decide : _ < 10 ^ 41) (by decide))
      (lt_digitLimit_of_short (by decide : _ < 10 ^ 40) (by decide)) (power 40) (power 39) same
    exact absurd equal (by decide)

example : toText? 1500000000000 = some (Text.ofString "1.5 Tgas") := by decide

end Gas

end SocialMigration
