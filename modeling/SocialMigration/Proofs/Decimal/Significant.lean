import SocialMigration.Proofs.Decimal.Quantize

/-!
# Significant digits

A size is rounded to a number of significant digits at the place where the last of them stands.
There is only one result, and it lies between the same powers of ten as the size. Fitting a number
into a context rounds it so, unless it is smaller than every number of full precision, and has a
finite result just if the rounded size is less than the power of ten that the context ends at.
-/

namespace SocialMigration

namespace Decimal

/-- Whether a size is another one when it is rounded to a number of significant digits. -/
inductive RoundsTo (tie : Tie) (digits : Nat) : ℚ → ℚ → Prop where
  | zero : RoundsTo tie digits 0 0
  | positive {size : ℚ} {power nearest : ℤ} (reached : 10 ^ (power + digits - 1) ≤ size)
      (below : size < 10 ^ (power + digits))
      (near : tie.Nearest (size * 10 ^ (-power)) nearest) :
      RoundsTo tie digits size (nearest * 10 ^ power)

variable {context : Context} {tie : Tie} {negative : Bool} {digits coefficient : Nat}
variable {exponent target : Int} {size rounded other : ℚ}

namespace RoundsTo

/-- A size is rounded at one place only, and to one of its neighbours there. -/
theorem unique (rounds : RoundsTo tie digits size rounded)
    (rounds' : RoundsTo tie digits size other) : other = rounded := by
  cases rounds with
  | zero =>
      cases rounds' with
      | zero => rfl
      | positive reached _ _ => exact absurd reached (not_le.mpr (zpow_pos_ten _))
  | @positive _ power _ reached below near =>
      cases rounds' with
      | zero => exact absurd reached (not_le.mpr (zpow_pos_ten _))
      | @positive _ power' _ reached' below' near' =>
          have less := (zpow_lt_zpow_iff_right₀ (by norm_num)).mp (reached.trans_lt below')
          have less' := (zpow_lt_zpow_iff_right₀ (by norm_num)).mp (reached'.trans_lt below)
          obtain rfl : power' = power := by omega
          rw [near.unique near']

/-- What is rounded does not pass a power of ten that the size does not reach. -/
theorem le_pow (rounds : RoundsTo tie digits size rounded) (less : size < 10 ^ target) :
    rounded ≤ 10 ^ target := by
  cases rounds with
  | zero => exact (zpow_pos_ten target).le
  | @positive _ power nearest reached below near =>
      have place := (zpow_lt_zpow_iff_right₀ (by norm_num)).mp (reached.trans_lt less)
      have most : nearest ≤ 10 ^ digits := ge_of_near near.near (by
        rw [zpow_neg, ← div_eq_mul_inv, div_le_iff₀ (zpow_pos_ten power)]
        refine below.le.trans_eq ?_
        rw [zpow_add₀ (by norm_num), mul_comm]
        norm_cast)
      calc (nearest : ℚ) * 10 ^ power
        _ ≤ 10 ^ digits * 10 ^ power :=
            mul_le_mul_of_nonneg_right (by exact_mod_cast most) (zpow_pos_ten power).le
        _ = 10 ^ (power + digits) := by
            rw [zpow_add₀ (by norm_num), zpow_natCast, mul_comm]
        _ ≤ 10 ^ target := zpow_le_zpow_right₀ (by norm_num) (by omega)

/-- A size counted in another power of ten has the same digits. -/
theorem scale (rounds : RoundsTo tie digits size rounded) (shift : Int) :
    RoundsTo tie digits (size * 10 ^ shift) (rounded * 10 ^ shift) := by
  cases rounds with
  | zero =>
      rw [zero_mul]
      exact .zero
  | @positive _ power nearest reached below near =>
      have shifted (place : Int) : (10 : ℚ) ^ (place + shift) = 10 ^ place * 10 ^ shift :=
        zpow_add₀ (by norm_num) ..
      rw [mul_assoc, ← shifted]
      refine .positive ?_ ?_ ?_
      · rw [add_right_comm, add_sub_right_comm, shifted]
        exact mul_le_mul_of_nonneg_right reached (zpow_pos_ten shift).le
      · rw [add_right_comm, shifted]
        exact mul_lt_mul_of_pos_right below (zpow_pos_ten shift)
      · rwa [mul_assoc, ← zpow_add₀ (by norm_num), neg_add_rev, add_neg_cancel_left]

end RoundsTo

/-! ## Fitting -/

/-- The place of the last digit that is kept of a number of digits. -/
def lastPlace (digits coefficient : Nat) (exponent : Int) : Int :=
  exponent + Numeral.length coefficient - digits

/-- A number is rounded to the precision at the place of the last digit that is kept. -/
theorem Context.roundsTo_rounded (context : Context) (positive : 0 < coefficient)
    (exponent : Int) :
    RoundsTo context.tie context.precision (magnitude coefficient exponent)
      (magnitude (context.rounded (lastPlace context.precision coefficient exponent) coefficient
        exponent) (lastPlace context.precision coefficient exponent)) := by
  have near :=
    context.nearest_rounded (lastPlace context.precision coefficient exponent) coefficient exponent
  refine .positive ?_ ?_ near
  · rw [lastPlace, sub_add_cancel, ← not_lt, ← adjusted_lt_iff positive, adjusted]
    exact lt_irrefl _
  · rw [lastPlace, sub_add_cancel, ← adjusted_lt_iff positive, adjusted]
    exact sub_one_lt _

/-- A number whose last digit is kept is not changed by rounding. -/
theorem Context.rounded_of_le (below : target ≤ exponent) :
    magnitude (context.rounded target coefficient exponent) target =
      magnitude coefficient exponent := by
  rw [Context.rounded, if_pos below, magnitude_mul_pow,
    Int.toNat_of_nonneg (sub_nonneg.mpr below), add_sub_cancel]

/-- A size that has few enough digits in some spelling is not changed by rounding. -/
theorem Context.roundsTo_self (context : Context) (some : 0 < context.precision)
    (few : coefficient < 10 ^ context.precision) (exponent : Int) :
    RoundsTo context.tie context.precision (magnitude coefficient exponent)
      (magnitude coefficient exponent) := by
  rcases Nat.eq_zero_or_pos coefficient with rfl | positive
  · rw [magnitude_zero]
    exact .zero
  · have digits := (Numeral.length_le_iff some).mpr few
    have kept : lastPlace context.precision coefficient exponent ≤ exponent := by
      rw [lastPlace]
      omega
    have rounds := context.roundsTo_rounded positive exponent
    rwa [rounded_of_le kept] at rounds

/-- A coefficient that is carried over to a digit more loses its last one, which is zero. -/
theorem Context.fit_of_carry (some : 0 < context.precision) (positive : 0 < coefficient)
    (bounded : adjusted coefficient exponent ≤ context.greatest)
    (more : 0 < context.excess coefficient exponent)
    (carry : dropDigits context.tie coefficient (context.excess coefficient exponent).toNat =
      10 ^ context.precision) :
    context.fit negative coefficient exponent =
      if context.greatest < exponent + context.excess coefficient exponent + context.precision then
        .infinite negative
      else
        .finite negative (10 ^ (context.precision - 1))
          (exponent + context.excess coefficient exponent + 1) := by
  have digits := length_mul_pow one_pos (context.precision - 1)
  have one : Numeral.length 1 = 1 := rfl
  have first : adjusted (10 ^ (context.precision - 1))
      (exponent + context.excess coefficient exponent + 1) =
        exponent + context.excess coefficient exponent + context.precision := by
    rw [one_mul] at digits
    rw [adjusted, digits, one]
    omega
  rw [Context.fit, if_neg (by simpa using positive.ne'), if_neg (not_lt.mpr bounded)]
  refine (if_neg (not_le.mpr more)).trans ((if_pos (beq_iff_eq.mpr carry)).trans ?_)
  rw [← first]
  rfl

theorem magnitude_pow (digits : Nat) (exponent : Int) :
    magnitude (10 ^ digits) exponent = 10 ^ (exponent + digits) := by
  rw [magnitude, zpow_add₀ (by norm_num), mul_comm, zpow_natCast]
  norm_cast

/-- A number that is neither too small nor too great for the precision is rounded to it, and what is
rounded is infinite if that passes the bound of the context. -/
theorem Context.fit_normal (context : Context) (negative : Bool) (some : 0 < context.precision)
    (positive : 0 < coefficient) (normal : context.least ≤ adjusted coefficient exponent)
    (bounded : adjusted coefficient exponent ≤ context.greatest) :
    ∃ rounded, RoundsTo context.tie context.precision (magnitude coefficient exponent) rounded ∧
      ((rounded < 10 ^ (context.greatest + 1) ∧ ∃ kept power,
          context.fit negative coefficient exponent = .finite negative kept power ∧
            magnitude kept power = rounded) ∨
        (10 ^ (context.greatest + 1) ≤ rounded ∧
          context.fit negative coefficient exponent = .infinite negative)) := by
  refine ⟨_, context.roundsTo_rounded positive exponent, ?_⟩
  have place : lastPlace context.precision coefficient exponent =
      exponent + context.excess coefficient exponent := by
    simp only [Context.excess, Context.tiny, adjusted, lastPlace] at normal ⊢
    omega
  have first : exponent + context.excess coefficient exponent + context.precision =
      adjusted coefficient exponent + 1 := by
    rw [← place, lastPlace, adjusted]
    omega
  have below : (10 : ℚ) ^ (adjusted coefficient exponent + 1) ≤ 10 ^ (context.greatest + 1) :=
    zpow_le_zpow_right₀ (by norm_num) (Int.add_le_add_right bounded 1)
  rw [place]
  rcases le_or_gt (context.excess coefficient exponent) 0 with none | more
  · rw [rounded_of_le (by omega)]
    exact .inl ⟨((adjusted_lt_iff positive).mp (Int.lt_succ _)).trans_le below, _, _,
      fit_of_excess_le positive bounded none, rfl⟩
  · rw [Context.rounded, if_neg (by omega), add_sub_cancel_left]
    rcases (dropDigits_excess_le some more).lt_or_eq with fits | carry
    · refine .inl ⟨lt_of_lt_of_le ?_ below, _, _,
        fit_of_excess_pos positive bounded more fits.ne, rfl⟩
      rw [← first, ← magnitude_pow]
      exact mul_lt_mul_of_pos_right (Nat.cast_lt.mpr fits) (zpow_pos_ten _)
    · rw [carry, magnitude_pow, fit_of_carry some positive bounded more carry, first]
      rcases bounded.lt_or_eq with less | last
      · refine .inl ⟨zpow_lt_zpow_right₀ (by norm_num) (Int.add_lt_add_right less 1), _, _,
          if_neg (by omega), ?_⟩
        rw [magnitude_pow, ← first]
        congr 1
        omega
      · exact .inr ⟨by rw [last], if_pos (by omega)⟩

end Decimal

end SocialMigration
