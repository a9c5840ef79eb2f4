import Mathlib
import SocialMigration.Decimal.Arithmetic
import SocialMigration.Proofs.Numeral
import SocialMigration.Proofs.Rounding

/-!
# Decimal numbers as rational ones

A finite decimal number is a rational one. A context keeps an amount if that has few enough digits
and is neither too small nor too great; then fitting it changes the digits and the exponent at most,
and the sum of two numbers is their sum. Only the amount counts: zeros at the end of the digits may
be dropped or appended on the way.
-/

namespace SocialMigration

namespace Decimal

/-- The size of a finite number as a rational one. -/
def magnitude (coefficient : Nat) (exponent : Int) : ℚ :=
  coefficient * 10 ^ exponent

/-- The rational number that a sign, a coefficient and an exponent denote. -/
def amount (negative : Bool) (coefficient : Nat) (exponent : Int) : ℚ :=
  signedCoefficient negative coefficient * 10 ^ exponent

/-- The rational number that a finite decimal one is. -/
def value? : Decimal → Option ℚ
  | finite negative coefficient exponent => some (amount negative coefficient exponent)
  | _ => none

/-- Whether a context can keep an amount as it is. -/
structure Context.Keeps (context : Context) (size : ℚ) : Prop where
  digits : ∃ coefficient exponent, size = magnitude coefficient exponent ∧
    coefficient < 10 ^ context.precision ∧ context.tiny ≤ exponent
  below : size < 10 ^ (context.greatest + 1)

variable {context : Context} {tie : Tie} {negative : Bool} {coefficient other : Nat}
variable {exponent target : Int}

theorem zpow_pos_ten (target : Int) : (0 : ℚ) < 10 ^ target :=
  zpow_pos (by norm_num) target

theorem magnitude_nonneg (coefficient : Nat) (exponent : Int) :
    0 ≤ magnitude coefficient exponent :=
  mul_nonneg (Nat.cast_nonneg _) (zpow_pos_ten _).le

@[simp] theorem magnitude_zero (exponent : Int) : magnitude 0 exponent = 0 := by
  simp [magnitude]

theorem magnitude_pos (positive : 0 < coefficient) : 0 < magnitude coefficient exponent :=
  mul_pos (Nat.cast_pos.mpr positive) (zpow_pos_ten _)

/-- Zeros at the end of the digits count as much as a greater exponent. -/
theorem magnitude_mul_pow (coefficient power : Nat) (exponent : Int) :
    magnitude (coefficient * 10 ^ power) exponent = magnitude coefficient (exponent + power) := by
  rw [magnitude, magnitude, zpow_add₀ (by norm_num), zpow_natCast]
  push_cast
  ring

/-- Of two spellings of one size, that with the smaller exponent has the more zeros. -/
theorem coefficient_of_magnitude_eq {power : Nat}
    (same : magnitude coefficient exponent = magnitude other (exponent + power)) :
    coefficient = other * 10 ^ power := by
  rw [← magnitude_mul_pow, magnitude, magnitude] at same
  exact_mod_cast mul_right_cancel₀ (zpow_pos_ten exponent).ne' same

/-- A number of digits is a power of ten that is not reached. -/
theorem natCast_lt_zpow_iff (positive : 0 < coefficient) :
    (coefficient : ℚ) < 10 ^ target ↔ (Numeral.length coefficient : Int) ≤ target := by
  rcases lt_or_ge 0 target with some | none
  · lift target to Nat using some.le
    rw [zpow_natCast, Int.ofNat_le, Numeral.length_le_iff (Int.ofNat_lt.mp some)]
    exact_mod_cast Iff.rfl
  · have one : (10 : ℚ) ^ target ≤ 1 := zpow_le_one_of_nonpos₀ (by norm_num) none
    have atLeast : (1 : ℚ) ≤ coefficient := by exact_mod_cast positive
    have digits := Numeral.length_pos coefficient
    constructor
    · intro less
      exact absurd (lt_of_le_of_lt atLeast less) (not_lt.mpr one)
    · intro few
      omega

/-- The adjusted exponent tells between which powers of ten a number lies. -/
theorem adjusted_lt_iff (positive : 0 < coefficient) :
    adjusted coefficient exponent < target ↔ magnitude coefficient exponent < 10 ^ target := by
  have shifted : (10 : ℚ) ^ target = 10 ^ (target - exponent) * 10 ^ exponent := by
    rw [← zpow_add₀ (by norm_num), sub_add_cancel]
  rw [magnitude, shifted, mul_lt_mul_iff_left₀ (zpow_pos_ten _), natCast_lt_zpow_iff positive,
    adjusted]
  omega

theorem pos_of_magnitude_pos (positive : 0 < magnitude coefficient exponent) : 0 < coefficient := by
  rcases Nat.eq_zero_or_pos coefficient with rfl | some
  · simp at positive
  · exact some

/-- The first digit has the same place in every spelling of a size. -/
theorem adjusted_eq (positive : 0 < coefficient)
    (same : magnitude coefficient exponent = magnitude other target) :
    adjusted coefficient exponent = adjusted other target := by
  have positive' : 0 < other := pos_of_magnitude_pos (same ▸ magnitude_pos positive)
  refine eq_of_forall_gt_iff fun bound => ?_
  rw [adjusted_lt_iff positive, adjusted_lt_iff positive', same]

/-! ## Fitting -/

/-- Too great a number becomes infinite. -/
theorem Context.fit_of_great
    (great : 10 ^ (context.greatest + 1) ≤ magnitude coefficient exponent) :
    context.fit negative coefficient exponent = .infinite negative := by
  have positive := pos_of_magnitude_pos ((zpow_pos_ten _).trans_le great)
  have beyond := not_lt.mpr great
  rw [← adjusted_lt_iff positive, Int.lt_add_one_iff, not_le] at beyond
  rw [Context.fit, if_neg (by simp [positive.ne']), if_pos beyond]

/-- Zeros at the end of the digits are dropped without rounding. -/
theorem dropDigits_mul_pow (tie : Tie) (kept places : Nat) :
    dropDigits tie (kept * 10 ^ places) places = kept := by
  rw [dropDigits, Nat.pow_eq]
  split
  · rename_i short
    have some : 0 < places := Nat.lt_of_le_of_lt (Nat.zero_le _) short
    have less := (Numeral.length_le_iff some).mp short.le
    rw [mul_lt_iff_lt_one_left (by positivity)] at less
    exact (Nat.lt_one_iff.mp less).symm
  · exact roundedQuotient_mul (by positivity)

/-- The digits of a number that a context has no place for, because they are too many or too far
behind the point. -/
def Context.excess (context : Context) (coefficient : Nat) (exponent : Int) : Int :=
  max (Numeral.length coefficient - context.precision) (context.tiny - exponent)

/-- A number without excess digits stays as it is. -/
theorem Context.fit_of_excess_le (positive : 0 < coefficient)
    (bounded : adjusted coefficient exponent ≤ context.greatest)
    (none : context.excess coefficient exponent ≤ 0) :
    context.fit negative coefficient exponent = .finite negative coefficient exponent := by
  rw [Context.fit, if_neg (by simpa using positive.ne'), if_neg (not_lt.mpr bounded)]
  exact if_pos none

/-- A number with excess digits loses them, unless they carry over to a digit more. -/
theorem Context.fit_of_excess_pos (positive : 0 < coefficient)
    (bounded : adjusted coefficient exponent ≤ context.greatest)
    (some : 0 < context.excess coefficient exponent)
    (fits : dropDigits context.tie coefficient (context.excess coefficient exponent).toNat ≠
      10 ^ context.precision) :
    context.fit negative coefficient exponent =
      .finite negative
        (dropDigits context.tie coefficient (context.excess coefficient exponent).toNat)
        (exponent + context.excess coefficient exponent) := by
  rw [Context.fit, if_neg (by simpa using positive.ne'), if_neg (not_lt.mpr bounded)]
  exact (if_neg (not_le.mpr some)).trans (if_neg (beq_iff_eq.not.mpr fits))

/-- Excess digits are zeros if a context keeps the amount. -/
theorem Context.Keeps.zeros (keeps : context.Keeps (magnitude coefficient exponent))
    (positive : 0 < coefficient) (some : 0 < context.excess coefficient exponent) :
    ∃ kept, dropDigits context.tie coefficient
        (context.excess coefficient exponent).toNat = kept ∧ kept < 10 ^ context.precision ∧
      magnitude kept (exponent + context.excess coefficient exponent) =
        magnitude coefficient exponent := by
  rcases keeps.digits with ⟨other, power, spelled, few, reach⟩
  have adjustment := adjusted_eq positive spelled
  have inside : (Numeral.length other : Int) ≤ context.precision := by
    rcases Nat.eq_zero_or_pos context.precision with none | some
    · have size : 0 < magnitude coefficient exponent := magnitude_pos positive
      rw [none, pow_zero, Nat.lt_one_iff] at few
      rw [spelled, few, magnitude_zero] at size
      exact absurd size (lt_irrefl 0)
    · exact_mod_cast (Numeral.length_le_iff some).mpr few
  simp only [adjusted] at adjustment
  -- Both spellings start at the same place, so the short one ends in front of the excess digits.
  have further : exponent + context.excess coefficient exponent ≤ power := by
    simp only [Context.excess] at some ⊢
    omega
  have digits :
      (Numeral.length coefficient : Int) ≤
        context.excess coefficient exponent + context.precision := by
    simp only [Context.excess]
    omega
  generalize context.excess coefficient exponent = excess at some further digits
  obtain ⟨shift, rfl⟩ := Int.le.dest further
  lift excess to Nat using some.le
  have equal : coefficient = other * 10 ^ (excess + shift) :=
    coefficient_of_magnitude_eq (by rw [spelled]; push_cast; rw [add_assoc])
  have regrouped : coefficient = other * 10 ^ shift * 10 ^ excess := by
    rw [equal, pow_add]
    ring
  refine ⟨other * 10 ^ shift, ?_, ?_, ?_⟩
  · rw [regrouped, Int.toNat_natCast, dropDigits_mul_pow]
  · have bound := (Numeral.length_le_iff (by omega)).mp (Int.ofNat_le.mp digits)
    rw [regrouped, mul_comm, pow_add] at bound
    exact Nat.lt_of_mul_lt_mul_left bound
  · rw [regrouped, magnitude_mul_pow _ excess]

/-- An amount that a context keeps is unchanged when it is fitted. -/
theorem Context.Keeps.fit (keeps : context.Keeps (magnitude coefficient exponent)) :
    ∃ kept power, context.fit negative coefficient exponent = .finite negative kept power ∧
      magnitude kept power = magnitude coefficient exponent := by
  rcases Nat.eq_zero_or_pos coefficient with rfl | positive
  · exact ⟨0, _, rfl, by rw [magnitude_zero, magnitude_zero]⟩
  · have bounded : adjusted coefficient exponent ≤ context.greatest :=
      Int.lt_add_one_iff.mp ((adjusted_lt_iff positive).mpr keeps.below)
    rcases le_or_gt (context.excess coefficient exponent) 0 with none | some
    · exact ⟨coefficient, exponent, Context.fit_of_excess_le positive bounded none, rfl⟩
    · rcases keeps.zeros positive some with ⟨kept, dropped, few, same⟩
      refine ⟨kept, _, ?_, same⟩
      rw [Context.fit_of_excess_pos positive bounded some (dropped ▸ few.ne), dropped]

theorem dropDigits_le (tie : Tie) (coefficient places : Nat) :
    dropDigits tie coefficient places ≤ coefficient / 10 ^ places + 1 := by
  rw [dropDigits, Nat.pow_eq]
  split
  · exact Nat.zero_le _
  · exact roundedQuotient_le ..

/-- A coefficient that fits a precision does so without its last digits. -/
theorem dropDigits_lt {precision places : Nat} (some : 0 < precision)
    (few : coefficient < 10 ^ precision) (last : 0 < places) :
    dropDigits tie coefficient places < 10 ^ precision := by
  obtain ⟨precision, rfl⟩ := Nat.exists_eq_succ_of_ne_zero some.ne'
  have ten : 10 ≤ 10 ^ places := Nat.le_self_pow last.ne' 10
  have full : 0 < 10 ^ precision := by positivity
  calc dropDigits tie coefficient places
    _ ≤ coefficient / 10 ^ places + 1 := dropDigits_le ..
    _ ≤ coefficient / 10 + 1 := Nat.add_le_add_right (Nat.div_le_div_left ten (by decide)) 1
    _ < 10 ^ (precision + 1) := by
        rw [pow_succ] at few ⊢
        omega

/-- Without its excess digits a coefficient fits the precision, or is the first that does not. -/
theorem Context.dropDigits_excess_le (some : 0 < context.precision)
    (excess : 0 < context.excess coefficient exponent) :
    dropDigits context.tie coefficient (context.excess coefficient exponent).toNat ≤
      10 ^ context.precision := by
  have digits : Numeral.length coefficient ≤
      context.precision + (context.excess coefficient exponent).toNat := by
    simp only [Context.excess] at excess ⊢
    omega
  have below := (Numeral.length_le_iff (Nat.add_pos_left some _)).mp digits
  rw [pow_add] at below
  exact (dropDigits_le ..).trans (Nat.div_lt_of_lt_mul (mul_comm (10 ^ _) (10 ^ _) ▸ below))

/-- A finite number that has been fitted has no more digits than the context keeps. -/
theorem Context.fit_few (some : 0 < context.precision) {negative' : Bool} {kept : Nat} {power : Int}
    (fitted : context.fit negative coefficient exponent = .finite negative' kept power) :
    kept < 10 ^ context.precision := by
  rcases Nat.eq_zero_or_pos coefficient with rfl | positive
  · cases fitted
    positivity
  · simp only [Context.fit] at fitted
    split_ifs at fitted with zero beyond inside carry beyond'
    · rw [beq_iff_eq] at zero
      exact absurd zero positive.ne'
    · cases fitted
      exact (Numeral.length_le_iff some).mp (by omega)
    · cases fitted
      exact Nat.pow_lt_pow_right (by decide) (Nat.sub_lt some Nat.one_pos)
    · cases fitted
      rw [beq_iff_eq] at carry
      exact lt_of_le_of_ne (dropDigits_excess_le some (not_le.mp inside)) carry

/-- A small number is fitted by dropping digits behind the last place that the context has. -/
theorem Context.fit_small (some : 0 < context.precision)
    (few : coefficient < 10 ^ context.precision)
    (bounded : adjusted coefficient exponent ≤ context.greatest) :
    ∃ kept power, context.fit negative coefficient exponent = .finite negative kept power ∧
      power ≤ max exponent context.tiny := by
  rcases Nat.eq_zero_or_pos coefficient with rfl | positive
  · refine ⟨0, _, rfl, ?_⟩
    rw [Context.zeroExponent]
    omega
  · have digits := (Numeral.length_le_iff some).mpr few
    rcases le_or_gt (context.excess coefficient exponent) 0 with none | more
    · exact ⟨coefficient, exponent, fit_of_excess_le positive bounded none, le_max_left ..⟩
    · refine ⟨_, _, fit_of_excess_pos positive bounded more ?_, ?_⟩
      · have last : 0 < (context.excess coefficient exponent).toNat := by omega
        exact (dropDigits_lt some few last).ne
      · simp only [Context.excess]
        omega

/-! ## Signs -/

theorem amount_eq (negative : Bool) (coefficient : Nat) (exponent : Int) :
    amount negative coefficient exponent =
      if negative then -magnitude coefficient exponent else magnitude coefficient exponent := by
  cases negative <;> simp [amount, signedCoefficient, magnitude]

theorem abs_amount (negative : Bool) (coefficient : Nat) (exponent : Int) :
    |amount negative coefficient exponent| = magnitude coefficient exponent := by
  rw [amount_eq]
  cases negative
  · exact abs_of_nonneg (magnitude_nonneg ..)
  · exact (abs_neg _).trans (abs_of_nonneg (magnitude_nonneg ..))

/-- A signed coefficient taken apart. -/
theorem amount_natAbs {sum : Int} (sign : sum ≠ 0 → negative = decide (sum < 0)) :
    amount negative sum.natAbs exponent = sum * 10 ^ exponent := by
  rw [amount]
  rcases eq_or_ne sum 0 with rfl | nonzero
  · simp [signedCoefficient]
  · have restored : signedCoefficient negative sum.natAbs = sum := by
      rw [sign nonzero, signedCoefficient]
      split_ifs with below <;> simp only [decide_eq_true_eq] at below <;> omega
    rw [restored]

/-- An amount spelled with a smaller exponent. -/
theorem amount_align (negative : Bool) (coefficient : Nat) {common : Int}
    (below : common ≤ exponent) :
    amount negative coefficient exponent =
      signedCoefficient negative (coefficient * 10 ^ (exponent - common).toNat) * 10 ^ common := by
  rw [← amount, amount_eq, amount_eq, magnitude_mul_pow,
    Int.toNat_of_nonneg (sub_nonneg.mpr below), add_sub_cancel]

/-! ## Sums -/

/-- A number whose amount a context keeps is that amount. -/
theorem Context.Keeps.value?_fit
    (keeps : context.Keeps |amount negative coefficient exponent|) :
    (context.fit negative coefficient exponent).value? =
      some (amount negative coefficient exponent) := by
  rw [abs_amount] at keeps
  rcases keeps.fit with ⟨kept, power, fitted, same⟩
  rw [fitted, value?, amount_eq, amount_eq, same]

/-- An integer, counted in a power of ten, whose amount a context keeps is that amount. -/
theorem Context.Keeps.value?_natAbs {sum : Int}
    (keeps : context.Keeps |(sum : ℚ) * 10 ^ exponent|)
    (sign : sum ≠ 0 → negative = decide (sum < 0)) :
    (context.fit negative sum.natAbs exponent).value? = some ((sum : ℚ) * 10 ^ exponent) := by
  rw [← amount_natAbs sign] at keeps ⊢
  exact keeps.value?_fit

/-- A sum that a context keeps is exact. -/
theorem Context.Keeps.value?_addFinite {negative' : Bool} {coefficient' : Nat} {exponent' : Int}
    (keeps : context.Keeps
      |amount negative coefficient exponent + amount negative' coefficient' exponent'|) :
    (context.addFinite negative coefficient exponent negative' coefficient' exponent').value? =
      some (amount negative coefficient exponent + amount negative' coefficient' exponent') := by
  have aligned :
      amount negative coefficient exponent + amount negative' coefficient' exponent' = _ :=
    congrArg₂ (· + ·) (amount_align negative coefficient (min_le_left exponent exponent'))
      (amount_align negative' coefficient' (min_le_right exponent exponent'))
  rw [← add_mul, ← Int.cast_add] at aligned
  rw [aligned] at keeps ⊢
  exact keeps.value?_natAbs fun nonzero => if_neg (beq_iff_eq.not.mpr nonzero)

theorem Context.Keeps.value?_add {total balance : Decimal} {sum added : ℚ}
    (value : total.value? = some sum) (value' : balance.value? = some added)
    (keeps : context.Keeps |sum + added|) :
    ∃ larger, context.add total balance = some larger ∧ larger.value? = some (sum + added) := by
  cases total with
  | finite negative coefficient exponent =>
      cases balance with
      | finite negative' coefficient' exponent' =>
          cases value
          cases value'
          exact ⟨_, rfl, keeps.value?_addFinite⟩
      | infinite _ => exact nomatch value'
      | nan _ _ _ => exact nomatch value'
  | infinite _ => exact nomatch value
  | nan _ _ _ => exact nomatch value

theorem isFinite_of_value? {number : Decimal} {amount : ℚ} (value : number.value? = some amount) :
    number.isFinite = true := by
  cases number with
  | finite _ _ _ => rfl
  | infinite _ => exact nomatch value
  | nan _ _ _ => exact nomatch value

end Decimal

end SocialMigration
