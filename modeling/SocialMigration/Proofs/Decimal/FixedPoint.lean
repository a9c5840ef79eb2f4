import Mathlib.Algebra.Order.Ring.Int
import SocialMigration.Decimal.Printer
import SocialMigration.Proofs.Settings.Literal

/-!
# Fixed-point notation

The digits of a number fall into those of its quotient and, padded with zeros, those of its
remainder by a power of ten. So a number of decimal places is shown with exactly as many digits
behind the point, and without an exponent as long as the places are few.
-/

namespace SocialMigration

namespace Text

variable {width places n : Nat}

theorem ofNat_of_lt (small : n < 10) : ofNat n = [digitCharacter n] := by
  rw [ofNat, Numeral.digits_of_lt small]
  rfl

/-- The last digit of a number is its remainder. -/
theorem ofNat_of_le (big : 10 ≤ n) : ofNat n = ofNat (n / 10) ++ [digitCharacter (n % 10)] := by
  rw [ofNat, Numeral.digits_of_le (by decide) big, List.map_append]
  rfl

theorem length_paddedNat (some : 0 < width) (few : n < 10 ^ width) :
    (paddedNat width n).length = width := by
  have short := Numeral.length_digits_le (by decide : 1 < 10) some few
  rw [paddedNat, padZeros, List.length_append, List.length_replicate, ofNat, List.length_map]
  exact Nat.sub_add_cancel short

/-- The last digit of a padded number is its remainder. -/
theorem paddedNat_succ (some : 0 < width) (n : Nat) :
    paddedNat (width + 1) n = paddedNat width (n / 10) ++ [digitCharacter (n % 10)] := by
  rcases Nat.lt_or_ge n 10 with small | big
  · obtain ⟨width, rfl⟩ := Nat.exists_eq_succ_of_ne_zero some.ne'
    have zeros : ofNat 0 = [0x30] := rfl
    rw [paddedNat, paddedNat, Nat.div_eq_of_lt small, Nat.mod_eq_of_lt small, ofNat_of_lt small,
      zeros, padZeros, padZeros, ← List.replicate_succ']
    rfl
  · rw [paddedNat, paddedNat, ofNat_of_le big, padZeros, padZeros, List.length_append,
      List.length_singleton, Nat.add_sub_add_right, List.append_assoc]

/-- A number with more digits than its remainder has those of its quotient in front. -/
theorem ofNat_split (some : 0 < places) (big : 10 ^ places ≤ n) :
    ofNat n = ofNat (n / 10 ^ places) ++ paddedNat places (n % 10 ^ places) := by
  induction places generalizing n with
  | zero => omega
  | succ places ih =>
      rcases Nat.eq_zero_or_pos places with rfl | more
      · have last : paddedNat 1 (n % 10) = [digitCharacter (n % 10)] := by
          rw [paddedNat, ofNat_of_lt (Nat.mod_lt n (by decide))]
          rfl
        rw [zero_add, pow_one, last]
        exact ofNat_of_le big
      · rw [pow_succ'] at big ⊢
        have big' : 10 ^ places ≤ n / 10 := by
          rwa [Nat.le_div_iff_mul_le (by decide), Nat.mul_comm]
        have ten : 10 ≤ n := (Nat.le_mul_of_pos_right 10 (Nat.pow_pos (by decide))).trans big
        rw [ofNat_of_le ten, ih more big', paddedNat_succ more, Nat.mod_mul_right_div_self,
          Nat.mod_mul_right_mod, Nat.div_div_eq_div_mul, List.append_assoc]

end Text

namespace Decimal

variable {places coefficient : Nat}

/-- A number of decimal places in fixed-point notation: its whole part, and as many digits behind
the point as there are places. -/
def fixedPoint (coefficient places : Nat) : Text :=
  Text.ofNat (coefficient / 10 ^ places) ++
    if places = 0 then [] else [0x2E] ++ Text.paddedNat places (coefficient % 10 ^ places)

theorem withPoint_append {whole fraction : Text} (some : whole ≠ []) (more : fraction ≠ []) :
    withPoint (whole ++ fraction) whole.length = whole ++ ([0x2E] ++ fraction) := by
  have front := List.length_pos_iff.mpr some
  have back := List.length_pos_iff.mpr more
  rw [withPoint, if_neg (by omega), if_neg (by rw [List.length_append]; omega), Int.natAbs_natCast,
    List.take_left, List.drop_left, List.append_assoc]

/-- The point of a number of places stands in front of the digits of its remainder. -/
theorem withPoint_ofNat (coefficient places : Nat) :
    withPoint (Text.ofNat coefficient) ((Text.ofNat coefficient).length - places) =
      fixedPoint coefficient places := by
  rw [fixedPoint]
  rcases Nat.eq_zero_or_pos places with rfl | some
  · have nonempty := List.length_pos_iff.mpr (Text.ofNat_ne_nil coefficient)
    rw [withPoint, if_neg (by omega), if_pos (by omega), if_pos rfl, pow_zero, Nat.div_one,
      List.append_nil]
  · rw [if_neg some.ne']
    rcases Nat.lt_or_ge coefficient (10 ^ places) with small | big
    · have short := Numeral.length_digits_le (by decide : 1 < 10) some small
      have gap : ((Text.ofNat coefficient).length - places : Int).natAbs =
          places - (Text.ofNat coefficient).length := by
        rw [Text.ofNat, List.length_map]
        omega
      rw [withPoint, if_pos (by rw [Text.ofNat, List.length_map]; omega), gap,
        Nat.div_eq_of_lt small, Nat.mod_eq_of_lt small, List.append_assoc]
      rfl
    · have split := Text.ofNat_split some big
      have behind := Text.length_paddedNat some
        (Nat.mod_lt coefficient (Nat.pow_pos (n := places) (by decide)))
      have more : Text.paddedNat places (coefficient % 10 ^ places) ≠ [] :=
        List.length_pos_iff.mp (behind.symm ▸ some)
      rw [split, List.length_append, behind, Int.natCast_add, Int.add_sub_cancel,
        withPoint_append (Text.ofNat_ne_nil _) more]

/-- With at most six places there is no exponent. -/
theorem toText_finite (negative : Bool) (coefficient : Nat) (few : places ≤ 6) :
    (Decimal.finite negative coefficient (-places)).toText =
      minus negative ++ fixedPoint coefficient places := by
  have nonempty := List.length_pos_iff.mpr (Text.ofNat_ne_nil coefficient)
  have near : (decide (-(places : Int) ≤ 0) &&
      decide (-6 < ((Text.ofNat coefficient).length : Int) + -places)) = true := by
    simp only [Bool.and_eq_true, decide_eq_true_eq]
    omega
  rw [toText, magnitudeText, if_pos near, ← Int.sub_eq_add_neg, withPoint_ofNat]

example : (Decimal.finite true 70 (-3)).toText = Text.ofString "-0.070" := by decide

end Decimal

end SocialMigration
