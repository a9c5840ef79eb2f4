import Mathlib.Algebra.Group.Nat.Defs
import Mathlib.Data.List.Induction
import SocialMigration.Numeral

/-!
# Digits and numbers

The digits of a number denote it, its last digit is its remainder, and how many digits it has is
fixed by the powers of the base that it stays below. So is the count of decimal digits, however it
was found.
-/

namespace SocialMigration

namespace Numeral

variable {base rounds n : Nat} {found : List Nat}

theorem value_go (large : 1 < base) (enough : n < rounds) :
    value base (digits.go base rounds n found) =
      found.foldl (fun number digit => number * base + digit) n := by
  induction rounds generalizing n found with
  | zero => omega
  | succ rounds ih =>
      rw [digits.go]
      split
      · simp [value]
      · rename_i big
        have smaller : n / base < n := Nat.div_lt_self (by omega) large
        rw [ih (by omega), List.foldl_cons, Nat.div_add_mod']

/-- The digits of a number denote it. -/
theorem value_digits (large : 1 < base) (n : Nat) : value base (digits base n) = n :=
  value_go large (Nat.lt_succ_self n)

theorem go_lt (positive : 0 < base) (small : ∀ digit ∈ found, digit < base) :
    ∀ digit ∈ digits.go base rounds n found, digit < base := by
  induction rounds generalizing n found with
  | zero => exact small
  | succ rounds ih =>
      rw [digits.go]
      split
      · rename_i last
        exact List.forall_mem_cons.mpr ⟨last, small⟩
      · exact ih (List.forall_mem_cons.mpr ⟨Nat.mod_lt _ positive, small⟩)

theorem digits_lt (positive : 0 < base) (n : Nat) : ∀ digit ∈ digits base n, digit < base :=
  go_lt positive (by simp)

theorem go_ne_nil (nonempty : found ≠ [] ∨ 0 < rounds) : digits.go base rounds n found ≠ [] := by
  induction rounds generalizing n found with
  | zero => exact nonempty.resolve_right (Nat.lt_irrefl 0)
  | succ rounds ih =>
      rw [digits.go]
      split
      · exact List.cons_ne_nil _ _
      · exact ih (.inl (List.cons_ne_nil _ _))

theorem digits_ne_nil (base n : Nat) : digits base n ≠ [] :=
  go_ne_nil (.inr (Nat.succ_pos n))

/-- The digits found so far stay behind those still to be found. -/
theorem go_append (base rounds n : Nat) (found : List Nat) :
    digits.go base rounds n found = digits.go base rounds n [] ++ found := by
  induction rounds generalizing n found with
  | zero => rfl
  | succ rounds ih =>
      rw [digits.go, digits.go]
      split
      · rfl
      · rw [ih, ih (n / base) [n % base], List.append_assoc]
        rfl

/-- Rounds beyond the number itself find nothing more. -/
theorem go_eq_digits (large : 1 < base) (enough : n < rounds) :
    digits.go base rounds n [] = digits base n := by
  have rounded : ∀ more m, m < more →
      digits.go base (more + 1) m [] = digits.go base more m [] := by
    intro more
    induction more with
    | zero => intro m less; omega
    | succ more ih =>
        intro m less
        rw [digits.go]
        conv => rhs; rw [digits.go]
        split
        · rfl
        · have smaller : m / base < m := Nat.div_lt_self (by omega) large
          rw [go_append, ih _ (by omega), ← go_append]
  induction rounds with
  | zero => omega
  | succ rounds ih =>
      by_cases last : n = rounds
      · rw [digits, last]
      · rw [rounded rounds n (by omega), ih (by omega)]

theorem digits_of_lt (small : n < base) : digits base n = [n] := by
  rw [digits, digits.go, if_pos small]

/-- The last digit of a number is its remainder. -/
theorem digits_of_le (large : 1 < base) (big : base ≤ n) :
    digits base n = digits base (n / base) ++ [n % base] := by
  have smaller : n / base < n := Nat.div_lt_self (by omega) large
  rw [digits, digits.go, if_neg (by omega), go_append, go_eq_digits large smaller]

/-- The first digit of a number is zero only if the number is. -/
theorem digits_head_pos (large : 1 < base) (positive : 0 < n) :
    ∃ first rest, digits base n = first :: rest ∧ 0 < first := by
  induction n using Nat.strongRecOn with
  | ind n ih =>
      rcases Nat.lt_or_ge n base with small | big
      · exact ⟨n, [], digits_of_lt small, positive⟩
      · have quotient : 0 < n / base := Nat.div_pos big (by omega)
        rcases ih (n / base) (Nat.div_lt_self positive large) quotient with
          ⟨first, rest, same, leading⟩
        exact ⟨first, rest ++ [n % base], by rw [digits_of_le large big, same]; rfl, leading⟩

/-- A number has no more digits than a power of the base that it stays below. -/
theorem length_digits_le (large : 1 < base) {count : Nat} (positive : 0 < count)
    (below : n < base ^ count) : (digits base n).length ≤ count := by
  induction count generalizing n with
  | zero => omega
  | succ count ih =>
      rcases Nat.lt_or_ge n base with small | big
      · simp [digits_of_lt small]
      · have quotient : n / base < base ^ count :=
          Nat.div_lt_of_lt_mul (by rwa [Nat.mul_comm, ← Nat.pow_succ])
        have more : 0 < count := by
          rcases Nat.eq_zero_or_pos count with rfl | more
          · rw [Nat.zero_add, Nat.pow_one] at below
            omega
          · exact more
        rw [digits_of_le large big, List.length_append, List.length_singleton]
        exact Nat.succ_le_succ (ih more quotient)

/-- The number that digits denote stays below the power of the base with as many digits. -/
theorem value_lt {digits : List Nat} (small : ∀ digit ∈ digits, digit < base) :
    value base digits < base ^ digits.length := by
  induction digits using List.reverseRecOn with
  | nil => simp
  | append_singleton front last ih =>
      rw [List.forall_mem_append] at small
      have shorter := ih small.1
      have inside : last < base := small.2 last (List.mem_singleton_self _)
      rw [value_append_singleton, List.length_append, List.length_singleton, Nat.pow_succ]
      calc value base front * base + last
        _ < value base front * base + base := Nat.add_lt_add_left inside _
        _ = (value base front + 1) * base := (Nat.succ_mul ..).symm
        _ ≤ base ^ front.length * base := Nat.mul_le_mul_right base shorter

/-- Digits count for more by the power of the base that the digits behind them stay below. -/
theorem value_append (base : Nat) (front back : List Nat) :
    value base (front ++ back) = value base front * base ^ back.length + value base back := by
  induction back using List.reverseRecOn with
  | nil => simp
  | append_singleton back last ih =>
      rw [← List.append_assoc, value_append_singleton, value_append_singleton, ih,
        List.length_append, List.length_singleton, Nat.pow_succ, Nat.add_mul, Nat.mul_assoc,
        Nat.add_assoc]

/-- Zeros in front of digits count for nothing. -/
theorem value_zeros (base zeros : Nat) : value base (List.replicate zeros 0) = 0 := by
  induction zeros with
  | zero => rfl
  | succ zeros ih => rw [List.replicate_succ', value_append_singleton, ih, Nat.zero_mul]

/-! ## Counts of digits -/

theorem hasDigits_iff {count : Nat} :
    hasDigits n count = true ↔ (count = 0 ∨ 10 ^ count ≤ n) ∧ n < 10 ^ (count + 1) := by
  simp [hasDigits, Nat.pow_eq]

/-- The count of digits is right, whether it was estimated or not. -/
theorem hasDigits_length (n : Nat) : ∃ count, length n = count + 1 ∧ hasDigits n count = true := by
  rw [length]
  split
  · rename_i count found
    exact ⟨count, rfl, List.find?_some found⟩
  · have below := value_lt (digits_lt (by decide : 0 < 10) n)
    rw [value_digits (by decide)] at below
    have some : 0 < (digits 10 n).length := List.length_pos_iff.mpr (digits_ne_nil 10 n)
    refine ⟨(digits 10 n).length - 1, by omega, hasDigits_iff.mpr ⟨?_, ?_⟩⟩
    · rcases Nat.eq_zero_or_pos ((digits 10 n).length - 1) with single | several
      · exact .inl single
      · refine .inr (Nat.not_lt.mp fun less => ?_)
        have := length_digits_le (by decide : 1 < 10) several less
        omega
    · rwa [Nat.sub_add_cancel some]

theorem length_pos (n : Nat) : 0 < length n := by
  rcases hasDigits_length n with ⟨count, same, -⟩
  omega

/-- A number has at most as many digits as the power of ten that it stays below. -/
theorem length_le_iff {count : Nat} (positive : 0 < count) : length n ≤ count ↔ n < 10 ^ count := by
  rcases hasDigits_length n with ⟨found, same, has⟩
  rcases hasDigits_iff.mp has with ⟨reaches, below⟩
  rw [same]
  constructor
  · intro few
    exact Nat.lt_of_lt_of_le below (Nat.pow_le_pow_right (by decide) few)
  · intro less
    rcases reaches with rfl | reaches
    · exact positive
    · exact (Nat.pow_lt_pow_iff_right (by decide)).mp (Nat.lt_of_le_of_lt reaches less)

end Numeral

end SocialMigration
