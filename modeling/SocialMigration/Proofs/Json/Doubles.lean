import Mathlib.Data.List.Basic
import SocialMigration.Json.Printer
import SocialMigration.Proofs.Json.Grammar
import SocialMigration.Proofs.Json.Numbers

/-!
# Doubles as JSON numbers

Integers and finite doubles are written as numbers of the grammar, whatever their size. For doubles
this rests on their digits: the shortest ones that read back denote no zero unless the double is
one, so that no superfluous zero stands in front of them.
-/

namespace SocialMigration

namespace Json

namespace Strict

variable {n : Nat} {front back : Text}

/-- Zeros among digits are digits. -/
theorem isDigits_zeros (zeros : Nat) (digits : IsDigits back) :
    IsDigits (List.replicate zeros 0x30 ++ back) := by
  refine ⟨List.append_ne_nil_of_right_ne_nil _ digits.1,
    List.forall_mem_append.mpr ⟨fun c member => ?_, digits.2⟩⟩
  rw [List.eq_of_mem_replicate member]
  decide

theorem isDigits_zero : IsDigits [0x30] :=
  ⟨List.cons_ne_nil _ _, List.forall_mem_singleton.mpr rfl⟩

theorem isDigits_ofNat (n : Nat) : IsDigits (Text.ofNat n) :=
  ⟨Text.ofNat_ne_nil n,
    Text.forall_mem_ofNat n fun digit small => (asciiDigit_facts digit small).1⟩

theorem isDigits_paddedNat (width n : Nat) : IsDigits (Text.paddedNat width n) :=
  isDigits_zeros _ (isDigits_ofNat n)

/-- The first digit of a positive number is not zero. -/
theorem ofNat_leading (positive : 0 < n) : ∃ c rest, Text.ofNat n = c :: rest ∧ c ≠ 0x30 := by
  have small : ∀ digit ∈ Numeral.digits 10 n, digit < 10 := Numeral.digits_lt (by decide) n
  have head : ∃ first rest, Numeral.digits 10 n = first :: rest ∧ 0 < first :=
    Numeral.digits_head_pos (by decide) positive
  rcases head with ⟨first, rest, same, leading⟩
  rw [same] at small
  have isZero := (asciiDigit_facts first (small first List.mem_cons_self)).2.2
  refine ⟨_, _, by rw [Text.ofNat, same, List.map_cons], fun zero => ?_⟩
  rw [zero] at isZero
  exact leading.ne' (eq_of_beq isZero.symm)

/-- A front of the digits of a positive number starts with no zero. -/
theorem isWhole_take (positive : 0 < n) {count : Nat} (some : 0 < count) :
    IsWhole ((Text.ofNat n).take count) := by
  rcases ofNat_leading positive with ⟨c, rest, same, leading⟩
  have digits := isDigits_ofNat n
  cases count with
  | zero => exact absurd some (Nat.lt_irrefl 0)
  | succ count =>
      rw [same] at digits ⊢
      rw [List.take_succ_cons]
      refine .digits leading ⟨List.cons_ne_nil _ _, fun d member => ?_⟩
      rw [← List.take_succ_cons] at member
      exact digits.2 d (List.mem_of_mem_take member)

theorem isWhole_ofNat (n : Nat) : IsWhole (Text.ofNat n) := by
  rcases Nat.eq_zero_or_pos n with rfl | positive
  · exact .zero
  · have whole := isWhole_take positive (List.length_pos_iff.mpr (Text.ofNat_ne_nil n))
    rwa [List.take_length] at whole

/-- Zeros behind the digits of a positive number are digits of a number. -/
theorem isWhole_zeros (positive : 0 < n) (zeros : Nat) :
    IsWhole (Text.ofNat n ++ List.replicate zeros 0x30) := by
  rcases ofNat_leading positive with ⟨c, rest, same, leading⟩
  have digits := isDigits_ofNat n
  have zero (d : CodePoint) (member : d ∈ List.replicate zeros 0x30) : d.isAsciiDigit = true := by
    rw [List.eq_of_mem_replicate member]
    decide
  rw [same] at digits ⊢
  exact .digits leading
    ⟨List.cons_ne_nil _ _, List.forall_mem_append.mpr ⟨digits.2, zero⟩⟩

theorem isUnsigned_whole (whole : IsWhole front) : IsUnsigned front := by
  have unsigned := IsUnsigned.intro whole .none .none
  rwa [List.append_nil, List.append_nil] at unsigned

theorem isUnsigned_pointed (whole : IsWhole front) (digits : IsDigits back) :
    IsUnsigned (front ++ 0x2E :: back) := by
  have unsigned := IsUnsigned.intro whole (.point digits) .none
  rwa [List.append_nil] at unsigned

/-- Every integer is written as a number. -/
theorem isNumber_ofInt (value : Int) : IsNumber (Text.ofInt value) := by
  cases value with
  | ofNat n => exact .unsigned (isUnsigned_whole (isWhole_ofNat n))
  | negSucc n => exact .minus (isUnsigned_whole (isWhole_ofNat (n + 1)))

end Strict

end Json

namespace Binary64

open Json.Strict

variable {mantissa digits : Nat} {exponent power : Int}

/-- Whether a double is finite. -/
def isFinite : Binary64 → Bool
  | finite .. => true
  | infinite _ => false
  | nan => false

/-! ## The shortest digits -/

theorem scale_pos {base n : Nat} (large : 0 < base) (positive : 0 < n) (exponent : Int) :
    0 < (scale base n exponent).1 ∧ 0 < (scale base n exponent).2 := by
  rw [scale]
  split
  · exact ⟨positive, Nat.pow_pos large⟩
  · exact ⟨Nat.mul_pos positive (Nat.pow_pos large), Nat.zero_lt_one⟩

theorem scale_zero (base : Nat) (exponent : Int) : (scale base 0 exponent).1 = 0 := by
  rw [scale]
  split
  · rfl
  · exact Nat.zero_mul _

/-- Zero does not read back as a positive double. -/
theorem readsBack_zero (nonzero : mantissa ≠ 0) (exponent power : Int) :
    readsBack mantissa exponent 0 power = false := by
  have low : 0 < (quarters mantissa exponent).1 := by
    simp only [quarters]
    split <;> omega
  have up := (scale_pos (by decide : 0 < 2) Nat.zero_lt_one (exponent - 2)).1
  have lower : 0 < (quarters mantissa exponent).1 * (scale 2 1 (exponent - 2)).1 *
      (scale 10 0 power).2 := by
    refine Nat.mul_pos (Nat.mul_pos low up) ?_
    rw [scale]
    split
    · exact Nat.pow_pos (by decide)
    · exact Nat.zero_lt_one
  simp only [readsBack, scale_zero, Nat.zero_mul]
  split
  · rw [decide_eq_false (Nat.not_le.mpr lower), Bool.false_and]
  · rw [decide_eq_false (Nat.not_lt_zero _), Bool.false_and]

/-- The digits on a grid that read back as a positive double are not zero. -/
theorem onGrid?_pos (nonzero : mantissa ≠ 0)
    (found : onGrid? mantissa exponent power = some digits) : 0 < digits := by
  have floor {n : Nat} (back : readsBack mantissa exponent n power = true) : 0 < n := by
    rcases Nat.eq_zero_or_pos n with rfl | positive
    · rw [readsBack_zero nonzero] at back
      exact nomatch back
    · exact positive
  simp only [onGrid?] at found
  split at found
  · rename_i both
    rw [Bool.and_eq_true] at both
    cases found
    split
    · exact floor both.1
    · exact Nat.succ_pos _
  split at found
  · rename_i lower
    cases found
    exact floor lower
  split at found
  · cases found
    exact Nat.succ_pos _
  · exact nomatch found

/-- The shortest digits of a positive double are not zero, or there are none. -/
theorem shortest_pos (nonzero : mantissa ≠ 0) (exponent : Int) :
    0 < (shortest mantissa exponent).1 ∨ shortest mantissa exponent = (0, 0) := by
  unfold shortest
  dsimp only
  split
  · rename_i found search
    rcases List.exists_of_findSome?_eq_some search with ⟨power, -, onGrid⟩
    rcases Option.map_eq_some_iff.mp onGrid with ⟨digits, same, rfl⟩
    exact .inl (onGrid?_pos nonzero same)
  · exact .inr rfl

theorem dropZeros_pos {n rounds : Nat} (positive : 0 < n) :
    0 < (Numeral.dropZeros rounds n power).1 := by
  induction rounds generalizing n power with
  | zero => exact positive
  | succ rounds ih =>
      rw [Numeral.dropZeros]
      split
      · rename_i last
        rw [Bool.and_eq_true, beq_iff_eq] at last
        exact ih (by omega)
      · exact positive

/-! ## The layout -/

/-- The layout of digits is a number if no zeros are to be written behind a zero. -/
theorem isUnsigned_layout (trimmed : 0 < digits ∨ power ≤ 0) :
    IsUnsigned (layout digits power) := by
  have digit := isDigits_ofNat digits
  have some := List.length_pos_iff.mpr digit.1
  have single : digits = 0 → (Text.ofNat digits).length = 1 := by
    rintro rfl
    rfl
  have behind {count : Nat} (more : count < (Text.ofNat digits).length) :
      IsDigits ((Text.ofNat digits).drop count) :=
    ⟨by simpa using more, fun c member => digit.2 c (List.mem_of_mem_drop member)⟩
  simp only [layout]
  generalize place : ((Text.ofNat digits).length : Int) + power = point
  split
  · -- With an exponent, one digit stands in front of the point.
    have first : IsWhole ((Text.ofNat digits).take 1) := by
      rcases Nat.eq_zero_or_pos digits with rfl | positive
      · exact .zero
      · exact isWhole_take positive Nat.zero_lt_one
    have exponent {sign : CodePoint} (signed : sign = 0x2B ∨ sign = 0x2D) :
        IsExponent ([0x65, sign] ++ Text.paddedNat 2 (point - 1).natAbs) := by
      have signed : [sign] = [0x2B] ∨ [sign] = [0x2D] := by simpa using signed
      exact .letter (.inl rfl) (.inr signed) (isDigits_paddedNat 2 _)
    rw [List.append_assoc, List.append_assoc]
    refine .intro first ?_ (exponent ?_)
    · split
      · exact .none
      · rename_i several
        exact .point (behind (Nat.lt_of_not_le several))
    · split
      · exact .inr rfl
      · exact .inl rfl
  split
  · exact isUnsigned_pointed .zero (isDigits_zeros point.natAbs digit)
  split
  · have padded : IsWhole (Text.ofNat digits ++
        List.replicate (point.natAbs - (Text.ofNat digits).length) 0x30) := by
      rcases Nat.eq_zero_or_pos digits with zero | positive
      · have none : point.natAbs - (Text.ofNat digits).length = 0 := by
          have := single zero
          omega
        rw [none, List.replicate_zero, List.append_nil]
        exact isWhole_ofNat digits
      · exact isWhole_zeros positive _
    exact isUnsigned_pointed padded isDigits_zero
  · have positive : 0 < digits := by
      rcases Nat.eq_zero_or_pos digits with zero | positive
      · have := single zero
        omega
      · exact positive
    rw [List.append_assoc]
    exact isUnsigned_pointed (isWhole_take positive (by omega)) (behind (by omega))

theorem isUnsigned_magnitudeText (mantissa : Nat) (exponent : Int) :
    IsUnsigned (magnitudeText mantissa exponent) := by
  rw [magnitudeText]
  split
  · exact isUnsigned_pointed .zero isDigits_zero
  · rename_i nonzero
    rw [beq_iff_eq] at nonzero
    have found := shortest_pos nonzero exponent
    generalize shortest mantissa exponent = written at found ⊢
    rcases written with ⟨digits, power⟩
    have trimmed : 0 < (Numeral.dropZeros 17 digits power).1 ∨
        (Numeral.dropZeros 17 digits power).2 ≤ 0 := by
      rcases found with positive | none
      · exact .inl (dropZeros_pos positive)
      · rcases Prod.mk.inj none with ⟨rfl, rfl⟩
        exact .inr (Int.le_refl 0)
    exact isUnsigned_layout trimmed

/-- Every finite double is written as a number. -/
theorem isNumber_toText (spelling : Spelling) {number : Binary64}
    (finite : number.isFinite = true) : IsNumber (number.toText spelling) := by
  cases number with
  | finite negative mantissa exponent =>
      have unsigned := isUnsigned_magnitudeText mantissa exponent
      cases negative with
      | false => exact .unsigned unsigned
      | true => exact .minus unsigned
  | infinite negative => exact nomatch finite
  | nan => exact nomatch finite

end Binary64

end SocialMigration
