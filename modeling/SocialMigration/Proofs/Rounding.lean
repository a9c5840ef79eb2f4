import Mathlib
import SocialMigration.Rounding

/-!
# Nearest integers

A rounded quotient is exact if nothing remains. In any case it is the integer nearest to the
quotient; of two equally near ones it is that farther from zero where ties go up, and the even one
otherwise. There is only one such integer, and its sign is a matter of reflection.
-/

namespace SocialMigration

/-- Whether an integer is the one nearest to an amount, or of two equally near ones that farther
from zero. -/
structure IsNearest (amount : ℚ) (nearest : ℤ) : Prop where
  near : |amount - nearest| ≤ 1 / 2
  away : |amount - nearest| = 1 / 2 → |amount| < |(nearest : ℚ)|

/-- Whether an integer is the one nearest to an amount, or of two equally near ones the even one. -/
structure IsNearestEven (amount : ℚ) (nearest : ℤ) : Prop where
  near : |amount - nearest| ≤ 1 / 2
  even : |amount - nearest| = 1 / 2 → Even nearest

/-- Whether an integer is the one nearest to an amount, with ties as they are resolved. -/
def Tie.Nearest : Tie → ℚ → ℤ → Prop
  | .up => IsNearest
  | .even => IsNearestEven

variable {amount : ℚ} {nearest other : ℤ}

/-- Two integers that are both nearest to an amount are neighbours, and it is halfway between. -/
theorem halfway_of_near (near : |amount - nearest| ≤ 1 / 2) (near' : |amount - other| ≤ 1 / 2)
    (less : other < nearest) : amount = other + 1 / 2 ∧ nearest = other + 1 := by
  have apart : (other : ℚ) + 1 ≤ nearest := by exact_mod_cast less
  have below := (abs_le.mp near).1
  have above := (abs_le.mp near').2
  have next : (nearest : ℚ) = other + 1 := by linarith
  exact ⟨by linarith, by exact_mod_cast next⟩

/-- An integer near to an amount reaches every integer that the amount reaches. -/
theorem le_of_near (near : |amount - nearest| ≤ 1 / 2) (reached : other ≤ amount) :
    other ≤ nearest := by
  have below := (abs_le.mp near).2
  by_contra! less
  have apart : (nearest : ℚ) + 1 ≤ other := by exact_mod_cast less
  linarith

/-- An integer near to an amount exceeds no integer that the amount does not exceed. -/
theorem ge_of_near (near : |amount - nearest| ≤ 1 / 2) (bounded : amount ≤ other) :
    nearest ≤ other := by
  have above := (abs_le.mp near).1
  by_contra! less
  have apart : (other : ℚ) + 1 ≤ nearest := by exact_mod_cast less
  linarith

namespace IsNearest

theorem of_near (less : |amount - nearest| < 1 / 2) : IsNearest amount nearest :=
  ⟨less.le, fun tie => absurd tie less.ne⟩

theorem neg (is : IsNearest amount nearest) : IsNearest (-amount) (-nearest) := by
  have reflected : |-amount - ((-nearest : ℤ) : ℚ)| = |amount - nearest| := by
    rw [Int.cast_neg, ← neg_sub', abs_neg]
  refine ⟨reflected ▸ is.near, fun tie => ?_⟩
  rw [abs_neg, Int.cast_neg, abs_neg]
  exact is.away (reflected ▸ tie)

/-- Less than a half above a natural number, that is the nearest integer. -/
theorem of_below (whole : Nat) {rest : ℚ} (nonneg : 0 ≤ rest) (below : rest < 1 / 2) :
    IsNearest (whole + rest) (whole : ℤ) := by
  apply of_near
  rwa [Int.cast_natCast, add_sub_cancel_left, abs_of_nonneg nonneg]

/-- A half above a natural number or more, the next one is the nearest integer. -/
theorem of_above (whole : Nat) {rest : ℚ} (half : 1 / 2 ≤ rest) (less : rest < 1) :
    IsNearest (whole + rest) (whole + 1 : ℤ) := by
  have apart : |(whole + rest : ℚ) - ((whole + 1 : ℤ) : ℚ)| = 1 - rest := by
    push_cast
    rw [add_sub_add_left_eq_sub, abs_of_nonpos (by linarith), neg_sub]
  have nonneg : (0 : ℚ) ≤ whole := Nat.cast_nonneg whole
  constructor
  · rw [apart]
    linarith
  · intro _
    push_cast
    rw [abs_of_nonneg (by linarith), abs_of_nonneg (by linarith)]
    linarith

/-- Of two neighbours halfway around an amount, only one is farther from zero than the amount. -/
theorem le (is : IsNearest amount nearest) (isOther : IsNearest amount other) :
    nearest ≤ other := by
  by_contra! less
  obtain ⟨rfl, rfl⟩ := halfway_of_near is.near isOther.near less
  have far := isOther.away (by rw [add_sub_cancel_left]; norm_num)
  have far' := is.away (by push_cast; norm_num)
  push_cast at far'
  rcases le_or_gt 0 other with nonneg | negative
  · have : (0 : ℚ) ≤ other := by exact_mod_cast nonneg
    rw [abs_of_nonneg (by linarith), abs_of_nonneg this] at far
    linarith
  · have : (other : ℚ) + 1 ≤ 0 := by exact_mod_cast negative
    rw [abs_of_nonpos (by linarith), abs_of_nonpos this] at far'
    linarith

/-- A nearest integer stays below a bound as long as the amount is more than a half below it. -/
theorem lt_iff (is : IsNearest amount nearest) {bound : Nat} (positive : 0 < bound) :
    nearest < bound ↔ amount < bound - 1 / 2 := by
  have range := abs_le.mp is.near
  constructor
  · intro less
    have atMost : (nearest : ℚ) + 1 ≤ bound := by exact_mod_cast less
    refine lt_of_le_of_ne (by linarith) fun equal => ?_
    have whole : (nearest : ℚ) = bound - 1 := by linarith
    have some : (1 : ℚ) ≤ bound := by exact_mod_cast positive
    have away := is.away (by rw [equal, whole]; ring_nf; norm_num)
    rw [equal, whole, abs_of_nonneg (by linarith), abs_of_nonneg (by linarith)] at away
    linarith
  · intro less
    have below : (nearest : ℚ) < bound := by linarith
    exact_mod_cast below

/-- There is only one nearest integer. -/
theorem unique (is : IsNearest amount nearest) (isOther : IsNearest amount other) :
    other = nearest :=
  le_antisymm (isOther.le is) (is.le isOther)

end IsNearest

namespace IsNearestEven

theorem of_near (less : |amount - nearest| < 1 / 2) : IsNearestEven amount nearest :=
  ⟨less.le, fun tie => absurd tie less.ne⟩

/-- Of two neighbours halfway around an amount, only one is even. -/
theorem le (is : IsNearestEven amount nearest) (isOther : IsNearestEven amount other) :
    nearest ≤ other := by
  by_contra! less
  obtain ⟨rfl, rfl⟩ := halfway_of_near is.near isOther.near less
  have even := isOther.even (by rw [add_sub_cancel_left]; norm_num)
  have even' := is.even (by push_cast; norm_num)
  exact Int.even_add_one.mp even' even

/-- Halfway above a natural number, the even neighbour is the nearest integer. -/
theorem of_halfway (whole : Nat) : IsNearestEven (whole + 1 / 2) (whole + whole % 2 : Nat) := by
  rcases Nat.mod_two_eq_zero_or_one whole with even | odd
  · rw [even, Nat.add_zero]
    refine ⟨?_, fun _ => (Int.even_coe_nat _).mpr (Nat.even_iff.mpr even)⟩
    rw [Int.cast_natCast, add_sub_cancel_left]
    norm_num
  · rw [odd]
    refine ⟨?_, fun _ => (Int.even_coe_nat _).mpr (Nat.even_add_one.mpr ?_)⟩
    · push_cast
      rw [add_sub_add_left_eq_sub]
      norm_num
    · exact Nat.not_even_iff.mpr odd

end IsNearestEven

namespace Tie.Nearest

variable {tie : Tie}

theorem near (is : tie.Nearest amount nearest) : |amount - nearest| ≤ 1 / 2 := by
  cases tie with
  | even => exact IsNearestEven.near is
  | up => exact IsNearest.near is

theorem of_near (less : |amount - nearest| < 1 / 2) : tie.Nearest amount nearest := by
  cases tie with
  | even => exact IsNearestEven.of_near less
  | up => exact IsNearest.of_near less

/-- An integer is the nearest one to itself. -/
theorem self (tie : Tie) (whole : ℤ) : tie.Nearest whole whole :=
  of_near (by rw [sub_self]; norm_num)

/-- There is only one nearest integer, however ties are resolved. -/
theorem unique (is : tie.Nearest amount nearest) (isOther : tie.Nearest amount other) :
    other = nearest := by
  cases tie with
  | even => exact le_antisymm (IsNearestEven.le isOther is) (IsNearestEven.le is isOther)
  | up => exact IsNearest.unique is isOther

end Tie.Nearest

variable {tie : Tie} {quotient denominator : Nat}

theorem roundedQuotient_mul (positive : 0 < denominator) :
    roundedQuotient tie (quotient * denominator) denominator = quotient := by
  simp [roundedQuotient, Nat.mul_div_cancel quotient positive, positive]

theorem le_roundedQuotient (tie : Tie) (numerator denominator : Nat) :
    numerator / denominator ≤ roundedQuotient tie numerator denominator := by
  simp only [roundedQuotient]
  split_ifs
  · exact le_rfl
  · exact Nat.le_succ _
  · cases tie <;> exact Nat.le_add_right ..

theorem roundedQuotient_le (tie : Tie) (numerator denominator : Nat) :
    roundedQuotient tie numerator denominator ≤ numerator / denominator + 1 := by
  simp only [roundedQuotient]
  split_ifs
  · exact Nat.le_succ _
  · exact le_rfl
  · cases tie with
    | even => exact Nat.add_le_add_left (Nat.le_of_lt_succ (Nat.mod_lt _ (by decide))) _
    | up => exact le_rfl

theorem div_lt_half_iff {part : Nat} (positive : 0 < denominator) :
    (part : ℚ) / denominator < 1 / 2 ↔ 2 * part < denominator := by
  rw [div_lt_div_iff₀ (Nat.cast_pos.mpr positive) two_pos, one_mul, mul_comm]
  exact_mod_cast Iff.rfl

theorem half_lt_div_iff {part : Nat} (positive : 0 < denominator) :
    1 / 2 < (part : ℚ) / denominator ↔ denominator < 2 * part := by
  rw [div_lt_div_iff₀ two_pos (Nat.cast_pos.mpr positive), one_mul, mul_comm]
  exact_mod_cast Iff.rfl

/-- A rounded quotient is the integer nearest to the quotient. -/
theorem nearest_roundedQuotient (tie : Tie) (numerator : Nat) (positive : 0 < denominator) :
    tie.Nearest (numerator / denominator) (roundedQuotient tie numerator denominator) := by
  have size : (0 : ℚ) < denominator := Nat.cast_pos.mpr positive
  have split : (numerator : ℚ) / denominator =
      (numerator / denominator : Nat) + (numerator % denominator : Nat) / denominator := by
    rw [div_eq_iff size.ne', add_mul, div_mul_cancel₀ _ size.ne']
    exact_mod_cast (Nat.div_add_mod' numerator denominator).symm
  have less : ((numerator % denominator : Nat) : ℚ) / denominator < 1 := by
    rw [div_lt_one size]
    exact_mod_cast Nat.mod_lt numerator positive
  simp only [split, roundedQuotient]
  split_ifs with below above
  · apply Tie.Nearest.of_near
    rw [Int.cast_natCast, add_sub_cancel_left, abs_of_nonneg (by positivity)]
    exact (div_lt_half_iff positive).mpr below
  · apply Tie.Nearest.of_near
    rw [Int.cast_natCast, Nat.cast_add_one, add_sub_add_left_eq_sub, abs_of_neg (by linarith),
      neg_sub]
    linarith [(half_lt_div_iff positive).mpr above]
  · have half : ((numerator % denominator : Nat) : ℚ) / denominator = 1 / 2 :=
      le_antisymm (not_lt.mp ((half_lt_div_iff positive).not.mpr above))
        (not_lt.mp ((div_lt_half_iff positive).not.mpr below))
    rw [half]
    cases tie with
    | even => exact IsNearestEven.of_halfway _
    | up => exact IsNearest.of_above _ le_rfl (by norm_num)

end SocialMigration
