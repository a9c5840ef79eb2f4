import Mathlib
import SocialMigration.Balance
import SocialMigration.Proofs.Decimal.FixedPoint
import SocialMigration.Proofs.Decimal.Quantize

/-!
# Totals in NEAR

A total is counted in NEAR first and rounded to decimal places then. The first step moves the
exponent only: it drops no digit of a total of at most eighty, unless that is far too small to show.
So there is one rounding, to the nearest integer at the last place, and no result if that integer
has too many digits or the first of them stands too far in front of the point.
-/

namespace SocialMigration

namespace Balance

open Decimal (magnitude amount adjusted)
open Decimal.Context (balances)

variable {negative : Bool} {coefficient kept : Nat} {exponent power places : Int}

/-- The coefficient of a total at the last of a number of decimal places of NEAR. -/
def nearCoefficient (coefficient : Nat) (exponent places : Int) : Nat :=
  balances.rounded (-places) coefficient (exponent + -placesOfNear)

/-- A number with a coefficient at the last of a number of decimal places, if there is room. -/
def atPlaces (negative : Bool) (coefficient : Nat) (places : Int) :
    Except ArithmeticFault Decimal :=
  if coefficient < 10 ^ 80 ∧ adjusted coefficient (-places) ≤ 999999 then
    .ok (.finite negative coefficient (-places))
  else .error .invalidOperation

theorem magnitude_near (coefficient : Nat) (exponent places : Int) :
    magnitude coefficient (exponent + -placesOfNear) * 10 ^ places =
      magnitude coefficient exponent * 10 ^ (places - placesOfNear) := by
  rw [magnitude, magnitude, mul_assoc, mul_assoc, ← zpow_add₀ (by norm_num),
    ← zpow_add₀ (by norm_num)]
  congr 2
  ring

theorem isNearest_nearCoefficient (coefficient : Nat) (exponent places : Int) :
    IsNearest (magnitude coefficient exponent * 10 ^ (places - placesOfNear))
      (nearCoefficient coefficient exponent places) := by
  have near : IsNearest (magnitude coefficient (exponent + -placesOfNear) * 10 ^ (- -places))
      (nearCoefficient coefficient exponent places) := Decimal.Context.isNearest_rounded rfl
  rwa [neg_neg, magnitude_near] at near

theorem unitExponent_eq (reach : places.natAbs ≤ 999999) :
    Decimal.unitExponent places = .ok (-places) := by
  have far : ¬ Decimal.Context.units.reach < places.natAbs := by
    simp only [Decimal.Context.reach, Decimal.Context.units]
    omega
  have great : ¬ Decimal.Context.units.greatest < -places := by
    simp only [Decimal.Context.units]
    omega
  have small : Decimal.Context.units.tiny ≤ -places := by
    simp only [Decimal.Context.tiny, Decimal.Context.units]
    omega
  rw [Decimal.unitExponent, if_neg far, if_neg great, max_eq_right small]

/-- A total that stays finite is rounded once it is counted in NEAR. -/
theorem toNear_of_fit (reach : places.natAbs ≤ 999999)
    (fitted : balances.fit negative coefficient (exponent + -placesOfNear) =
      .finite negative kept power) :
    toNear (.finite negative coefficient exponent) places =
      atPlaces negative (balances.rounded (-places) kept power) places := by
  have inside : balances.tiny ≤ -places ∧
      -places ≤ balances.greatest := by
    simp only [Decimal.Context.tiny, balances]
    omega
  have quantized : balances.quantize (-places) (.finite negative kept power) =
      if balances.rounded (-places) kept power < 10 ^ 80 ∧
        adjusted (balances.rounded (-places) kept power) (-places) ≤ 999999 then
        some (.finite negative (balances.rounded (-places) kept power) (-places))
      else none := Decimal.Context.quantize_finite (by decide) inside
  rw [toNear, Decimal.Context.scale, fitted, unitExponent_eq reach, atPlaces]
  simp only [quantized]
  split_ifs <;> rfl

/-- A total that is infinite when it is counted in NEAR has no digits to round. -/
theorem toNear_of_overflow (reach : places.natAbs ≤ 999999)
    (overflow : balances.fit negative coefficient (exponent + -placesOfNear) =
      .infinite negative) :
    toNear (.finite negative coefficient exponent) places = .error .invalidOperation := by
  rw [toNear, Decimal.Context.scale, overflow, unitExponent_eq reach]
  rfl

theorem toNear_of_keeps (reach : places.natAbs ≤ 999999)
    (keeps : balances.Keeps (magnitude coefficient (exponent + -placesOfNear))) :
    toNear (.finite negative coefficient exponent) places =
      atPlaces negative (nearCoefficient coefficient exponent places) places := by
  rcases keeps.fit with ⟨kept, power, fitted, same⟩
  have near : IsNearest (magnitude kept power * 10 ^ (- -places))
      (balances.rounded (-places) kept power) :=
    Decimal.Context.isNearest_rounded rfl
  rw [neg_neg, same, magnitude_near] at near
  have equal := near.unique (isNearest_nearCoefficient coefficient exponent places)
  rw [toNear_of_fit reach fitted, Int.ofNat_inj.mp equal]

/-- A total that is too great for the context has too great a coefficient at every place. -/
theorem adjusted_nearCoefficient (reach : places.natAbs ≤ 999999)
    (great : 10 ^ (balances.greatest + 1) ≤
      magnitude coefficient (exponent + -placesOfNear)) :
    balances.greatest <
      adjusted (nearCoefficient coefficient exponent places) (-places) := by
  obtain ⟨power, units⟩ : ∃ power : Nat, balances.greatest + 1 + places = power :=
    Int.eq_ofNat_of_zero_le (by simp only [balances]; omega)
  -- The power of ten that the total reaches is a whole number of last places.
  have reached : ((10 ^ power : Nat) : ℚ) ≤
      magnitude coefficient exponent * 10 ^ (places - placesOfNear) := by
    rw [← magnitude_near, Nat.cast_pow, Nat.cast_ofNat, ← zpow_natCast, ← units,
      zpow_add₀ (by norm_num)]
    exact mul_le_mul_of_nonneg_right great (Decimal.zpow_pos_ten _).le
  have least : 10 ^ power ≤ nearCoefficient coefficient exponent places := by
    exact_mod_cast le_of_near (isNearest_nearCoefficient coefficient exponent places).near reached
  have large : 10 ^ (balances.greatest + 1) ≤
      magnitude (nearCoefficient coefficient exponent places) (-places) :=
    calc (10 : ℚ) ^ (balances.greatest + 1)
      _ = 10 ^ (power : ℤ) * 10 ^ (-places) := by
          rw [← zpow_add₀ (by norm_num), ← units, add_neg_cancel_right]
      _ ≤ magnitude (nearCoefficient coefficient exponent places) (-places) :=
          mul_le_mul_of_nonneg_right (by exact_mod_cast least) (Decimal.zpow_pos_ten _).le
  have positive := Decimal.pos_of_magnitude_pos ((Decimal.zpow_pos_ten _).trans_le large)
  rwa [← not_lt, ← Decimal.adjusted_lt_iff positive, Int.lt_add_one_iff, not_le] at large

/-- A total of at most eighty digits loses none of them when it is counted in NEAR, unless the first
of them is at the least exponent already. -/
theorem keeps_of_digits {significand zeros : Nat} (digits : significand < 10 ^ 80)
    (fine : significand = 0 ∨ -999975 ≤ adjusted (significand * 10 ^ zeros) exponent)
    (below : magnitude (significand * 10 ^ zeros) (exponent + -placesOfNear) <
      10 ^ (balances.greatest + 1)) :
    balances.Keeps
      (magnitude (significand * 10 ^ zeros) (exponent + -placesOfNear)) := by
  refine ⟨?_, below⟩
  rcases Nat.eq_zero_or_pos significand with rfl | positive
  · exact ⟨0, 0, by rw [zero_mul, Decimal.magnitude_zero, Decimal.magnitude_zero], by decide,
      by decide⟩
  · refine ⟨significand, _, Decimal.magnitude_mul_pow .., digits, ?_⟩
    have few := (Numeral.length_le_iff (by decide)).mpr digits
    have first := fine.resolve_left positive.ne'
    rw [adjusted, Decimal.length_mul_pow positive] at first
    simp only [Decimal.Context.tiny, balances, placesOfNear]
    omega

/-- No digit is rounded twice. -/
theorem toNear_of_digits (negative : Bool) {significand zeros : Nat}
    (digits : significand < 10 ^ 80)
    (fine : significand = 0 ∨ -999975 ≤ adjusted (significand * 10 ^ zeros) exponent)
    (reach : places.natAbs ≤ 999999) :
    toNear (.finite negative (significand * 10 ^ zeros) exponent) places =
      atPlaces negative (nearCoefficient (significand * 10 ^ zeros) exponent places) places := by
  rcases lt_or_ge (magnitude (significand * 10 ^ zeros) (exponent + -placesOfNear))
    (10 ^ (balances.greatest + 1)) with below | great
  · exact toNear_of_keeps reach (keeps_of_digits digits fine below)
  · have beyond := adjusted_nearCoefficient reach great
    rw [toNear_of_overflow reach (Decimal.Context.fit_of_great great), atPlaces,
      if_neg fun room => not_le.mpr beyond room.2]

/-- A sign makes no difference to how a total is rounded. -/
theorem isNearest_signed (negative : Bool) (coefficient : Nat) (exponent places : Int) :
    IsNearest (amount negative coefficient exponent * 10 ^ (places - placesOfNear))
      (Decimal.signedCoefficient negative (nearCoefficient coefficient exponent places)) := by
  have near := isNearest_nearCoefficient coefficient exponent places
  rw [Decimal.amount_eq]
  cases negative with
  | false => exact near
  | true =>
      rw [if_pos rfl, neg_mul]
      exact near.neg

theorem natAbs_signedCoefficient (negative : Bool) (coefficient : Nat) :
    (Decimal.signedCoefficient negative coefficient).natAbs = coefficient := by
  cases negative <;> simp [Decimal.signedCoefficient]

/-- With a coefficient of eighty digits only a number of very few places is too great. -/
theorem adjusted_le_of_few {nearest : Nat} (few : nearest < 10 ^ 80) (more : -999920 ≤ places) :
    adjusted nearest (-places) ≤ 999999 := by
  have digits := (Numeral.length_le_iff (by decide)).mpr few
  rw [adjusted]
  omega

/-- A total in NEAR is shown in fixed-point notation. -/
theorem nearText_of_toNear {total : Decimal} {nearest shown : Nat} (few : shown ≤ 6)
    (rounded : toNear total shown = atPlaces negative nearest shown) :
    nearText total shown =
      if nearest < 10 ^ 80 then
        .ok (Decimal.minus negative ++ Decimal.fixedPoint nearest shown ++ " NEAR")
      else .error .invalidOperation := by
  rw [nearText, rounded, atPlaces]
  by_cases short : nearest < 10 ^ 80
  · rw [if_pos ⟨short, adjusted_le_of_few short (by omega)⟩, if_pos short, Except.map,
      Decimal.toText_finite negative nearest few]
  · rw [if_neg (fun room => short room.1), if_neg short]
    rfl

/-- A total of at most eighty digits is rounded once, to the nearest multiple of the last decimal
place and away from zero between two of them. There is a result if the count of such multiples has
at most eighty digits, none of them too far in front of the point. With few places behind the point
it is shown in fixed-point notation. -/
theorem toNear_rounds (negative : Bool) {significand zeros : Nat} (digits : significand < 10 ^ 80)
    (fine : significand = 0 ∨ -999975 ≤ adjusted (significand * 10 ^ zeros) exponent)
    (reach : places.natAbs ≤ 999999) :
    ∃ nearest : ℤ,
      (∀ other, IsNearest
        (amount negative (significand * 10 ^ zeros) exponent * 10 ^ (places - placesOfNear)) other ↔
          other = nearest) ∧
      toNear (.finite negative (significand * 10 ^ zeros) exponent) places =
        (if nearest.natAbs < 10 ^ 80 ∧ adjusted nearest.natAbs (-places) ≤ 999999 then
          .ok (.finite negative nearest.natAbs (-places))
        else .error .invalidOperation) ∧
      ∀ shown ≤ 6, places = (shown : Nat) →
        nearText (.finite negative (significand * 10 ^ zeros) exponent) places =
          if nearest.natAbs < 10 ^ 80 then
            .ok (Decimal.minus negative ++ Decimal.fixedPoint nearest.natAbs shown ++ " NEAR")
          else .error .invalidOperation := by
  have near := isNearest_signed negative (significand * 10 ^ zeros) exponent places
  have rounded := toNear_of_digits negative digits fine reach
  refine ⟨_, fun other => ⟨near.unique, fun same => same ▸ near⟩, ?_, ?_⟩
  · rw [natAbs_signedCoefficient]
    exact rounded
  · rintro shown few rfl
    rw [natAbs_signedCoefficient]
    exact nearText_of_toNear few rounded

theorem toNear_rounds_tie :
    toNear (.finite true (9995 * 10 ^ 20) 0) 3 = .ok (.finite true 1000 (-3)) ∧
      nearText (.finite true (9995 * 10 ^ 20) 0) 3 = .ok "-1.000 NEAR" := by
  have digits : 9995 < 10 ^ 80 := by decide
  have fine : 9995 = 0 ∨ -999975 ≤ adjusted (9995 * 10 ^ 20) 0 := .inr (by decide)
  rcases toNear_rounds true digits fine (by decide : (3 : Int).natAbs ≤ 999999) with
    ⟨nearest, unique, rounded, shown⟩
  have half : amount true (9995 * 10 ^ 20) 0 * 10 ^ (3 - placesOfNear : Int) = -(1999 / 2) := by
    norm_num [amount, Decimal.signedCoefficient, placesOfNear]
  have tie : IsNearest (-(1999 / 2)) (-1000) := by
    constructor <;> norm_num [abs_of_neg]
  rw [half] at unique
  obtain rfl := (unique (-1000)).mp tie
  exact ⟨rounded, shown 3 (by decide) rfl⟩

/-- A total can be too great for the context although it has few digits at the last place. -/
theorem toNear_unrounded :
    IsNearest (amount false 1 1000024 * 10 ^ (-999999 - placesOfNear : ℤ)) 10 ∧
      (10 : ℤ).natAbs < 10 ^ 80 ∧
      toNear (.finite false 1 1000024) (-999999) = .error .invalidOperation := by
  refine ⟨?_, by decide, ?_⟩
  · have apart : (1000024 + (-999999 - placesOfNear) : Int) = 1 := rfl
    have ten := IsNearest.of_below 10 le_rfl (by norm_num)
    rw [amount, mul_assoc, ← zpow_add₀ (by norm_num), apart]
    norm_num [Decimal.signedCoefficient] at ten ⊢
    exact ten
  · exact toNear_of_overflow (by decide) rfl

end Balance

end SocialMigration
