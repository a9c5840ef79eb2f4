import SocialMigration.Proofs.Decimal.Value

/-!
# Numbers at a fixed exponent

A number is moved to another exponent by appending zeros or by rounding digits off; the coefficient
is then the integer nearest to the amount counted in that power of ten. There is a result if the
coefficient fits the precision and its first digit does not stand too far in front of the point.
-/

namespace SocialMigration

namespace Decimal

variable {context : Context} {tie : Tie} {negative : Bool} {coefficient places : Nat}
variable {exponent target : Int}

/-- Zeros at the end of the digits are digits as well. -/
theorem length_mul_pow (positive : 0 < coefficient) (zeros : Nat) :
    Numeral.length (coefficient * 10 ^ zeros) = Numeral.length coefficient + zeros := by
  have same := adjusted_eq (Nat.mul_pos positive (by positivity)) (magnitude_mul_pow _ zeros 0)
  simp only [adjusted] at same
  omega

/-- Digits are dropped by rounding to the nearest integer, even where all of them are. -/
theorem nearest_dropDigits (tie : Tie) (coefficient places : Nat) :
    tie.Nearest (coefficient / 10 ^ places) (dropDigits tie coefficient places) := by
  rw [dropDigits, Nat.pow_eq]
  split
  · rename_i short
    have some := Numeral.length_pos coefficient
    have less := (Numeral.length_le_iff (by omega)).mp (Nat.le_sub_one_of_lt short)
    have half : 2 * coefficient < 10 ^ places :=
      calc 2 * coefficient
        _ < 10 * 10 ^ (places - 1) := Nat.mul_lt_mul_of_le_of_lt (by decide) less (by decide)
        _ = 10 ^ places := by rw [← pow_succ', Nat.sub_add_cancel (Nat.zero_lt_of_lt short)]
    have below : (coefficient : ℚ) / 10 ^ places < 1 / 2 := by
      exact_mod_cast (div_lt_half_iff (by positivity : 0 < 10 ^ places)).mpr half
    apply Tie.Nearest.of_near
    rwa [Nat.cast_zero, Int.cast_zero, sub_zero, abs_of_nonneg (by positivity)]
  · exact_mod_cast nearest_roundedQuotient tie coefficient (by positivity : 0 < 10 ^ places)

/-- Digits that are not dropped stay. -/
theorem le_dropDigits {kept : Nat} (enough : 10 ^ (kept + places) ≤ coefficient) :
    10 ^ kept ≤ dropDigits tie coefficient places := by
  rw [dropDigits, Nat.pow_eq, if_neg]
  · calc 10 ^ kept
      _ ≤ coefficient / 10 ^ places := by
          rwa [Nat.le_div_iff_mul_le (by positivity), ← pow_add]
      _ ≤ roundedQuotient tie coefficient (10 ^ places) := le_roundedQuotient ..
  · intro short
    have less := (Numeral.length_le_iff (Nat.zero_lt_of_lt short)).mp short.le
    have more : 10 ^ places ≤ 10 ^ (kept + places) :=
      Nat.pow_le_pow_right (by decide) (Nat.le_add_left ..)
    omega

/-- The coefficient of a number at another exponent. -/
def Context.rounded (context : Context) (target : Int) (coefficient : Nat) (exponent : Int) : Nat :=
  if target ≤ exponent then coefficient * 10 ^ (exponent - target).toNat
  else dropDigits context.tie coefficient (target - exponent).toNat

/-- A number at another exponent is the nearest integer to its amount in that power of ten. -/
theorem Context.nearest_rounded (context : Context) (target : Int) (coefficient : Nat)
    (exponent : Int) :
    context.tie.Nearest (magnitude coefficient exponent * 10 ^ (-target))
      (context.rounded target coefficient exponent) := by
  rw [magnitude, mul_assoc, ← zpow_add₀ (by norm_num), ← sub_eq_add_neg, Context.rounded]
  split
  · rename_i below
    lift exponent - target to Nat using sub_nonneg.mpr below with zeros
    rw [Int.toNat_natCast, zpow_natCast]
    have whole := Tie.Nearest.self context.tie (coefficient * 10 ^ zeros)
    exact_mod_cast whole
  · rename_i above
    rw [← neg_sub target exponent, zpow_neg, ← div_eq_mul_inv]
    lift target - exponent to Nat using by omega with dropped
    rw [Int.toNat_natCast, zpow_natCast]
    exact nearest_dropDigits ..

theorem Context.isNearest_rounded (up : context.tie = .up) :
    IsNearest (magnitude coefficient exponent * 10 ^ (-target))
      (context.rounded target coefficient exponent) := by
  have near := context.nearest_rounded target coefficient exponent
  rwa [up] at near

/-- A number with too many digits in front of the target has too great a coefficient there. -/
theorem Context.le_rounded (positive : 0 < coefficient) (some : 0 < context.precision)
    (many : context.precision < Numeral.length coefficient + (exponent - target)) :
    10 ^ context.precision ≤ context.rounded target coefficient exponent := by
  rw [Context.rounded]
  split
  · have digits := length_mul_pow positive (exponent - target).toNat
    rw [← not_lt, ← Numeral.length_le_iff some]
    omega
  · apply le_dropDigits
    rw [← not_lt, ← Numeral.length_le_iff (Nat.add_pos_left some _)]
    omega

/-- There is a coefficient at another exponent if it fits the precision. -/
theorem Context.coefficientAt?_eq (positive : 0 < coefficient) (some : 0 < context.precision) :
    context.coefficientAt? target coefficient exponent =
      if context.rounded target coefficient exponent < 10 ^ context.precision then
        Option.some (context.rounded target coefficient exponent)
      else none := by
  rcases lt_or_ge (context.precision : ℤ) (Numeral.length coefficient + (exponent - target))
    with many | few
  · rw [Context.coefficientAt?, if_pos many, if_neg (not_lt.mpr (le_rounded positive some many))]
  · rw [Context.coefficientAt?, if_neg (not_lt.mpr few), Context.rounded]
    split
    · have digits := length_mul_pow positive (exponent - target).toNat
      rw [if_pos ((Numeral.length_le_iff some).mp (by omega)), Nat.pow_eq]
    · simp only [← Numeral.length_le_iff some, ← not_lt, ite_not]

@[simp] theorem Context.rounded_zero : context.rounded target 0 exponent = 0 := by
  rw [Context.rounded]
  split
  · exact zero_mul _
  · have none := dropDigits_mul_pow context.tie 0 (target - exponent).toNat
    rwa [zero_mul] at none

/-- All digits are rounded off if they stand far enough behind the target. -/
theorem Context.rounded_of_far (some : 0 < context.precision)
    (few : coefficient < 10 ^ context.precision) (far : exponent + context.precision < target) :
    context.rounded target coefficient exponent = 0 := by
  have digits := (Numeral.length_le_iff some).mpr few
  rw [Context.rounded, if_neg (by omega), dropDigits, if_pos (by omega)]

theorem adjusted_zero (target : Int) : adjusted 0 target = target := by
  have few := (Numeral.length_le_iff (n := 0) Nat.one_pos).mpr (by decide)
  have some := Numeral.length_pos 0
  rw [adjusted]
  omega

/-- There is a result at a target that is in bounds if the coefficient fits there. -/
theorem Context.quantize_finite (some : 0 < context.precision)
    (inside : context.tiny ≤ target ∧ target ≤ context.greatest) :
    context.quantize target (.finite negative coefficient exponent) =
      if context.rounded target coefficient exponent < 10 ^ context.precision ∧
        adjusted (context.rounded target coefficient exponent) target ≤ context.greatest then
        Option.some (.finite negative (context.rounded target coefficient exponent) target)
      else none := by
  rw [Context.quantize, if_neg (by simp [inside])]
  rcases Nat.eq_zero_or_pos coefficient with rfl | positive
  · rw [rounded_zero, adjusted_zero, if_pos (beq_self_eq_true 0),
      if_pos ⟨by positivity, inside.2⟩]
  · rw [if_neg (by simp [positive.ne']), coefficientAt?_eq positive some]
    by_cases fits : context.rounded target coefficient exponent < 10 ^ context.precision
    · simp only [fits, if_true, true_and, ← not_le, ite_not]
    · simp only [fits, if_false, false_and]

end Decimal

end SocialMigration
