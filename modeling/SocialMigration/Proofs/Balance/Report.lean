import Mathlib
import SocialMigration.Proofs.Balance.Adding
import SocialMigration.Proofs.Balance.Exact
import SocialMigration.Proofs.Balance.Near

/-!
# Where a report fails

Balances have a total unless a record has none, but not every total can be shown: an infinite one
cannot, and no more can one whose rounded coefficient has too many digits. Every other one is.
-/

namespace SocialMigration

namespace Balance

open Decimal (magnitude amount adjusted)
open Decimal.Context (balances)

variable {negative : Bool} {coefficient : Nat} {exponent : Int} {total balance : Decimal}

/-- Whether a total is a number that has at most eighty digits when it is rounded for the report. -/
def Reportable (total : Decimal) : Prop :=
  ∃ amount, total.value? = some amount ∧ |amount| < (10 ^ 80 - 1 / 2) * 10 ^ 21

/-- Nothing is left of a total that is too small to be counted in NEAR without rounding. -/
theorem toNear_of_small (few : coefficient < 10 ^ 80)
    (small : adjusted coefficient exponent < -999975) :
    toNear (.finite negative coefficient exponent) reportPlaces =
      atPlaces negative (nearCoefficient coefficient exponent reportPlaces) reportPlaces := by
  have low : exponent < -999975 := by
    have some := Numeral.length_pos coefficient
    rw [adjusted] at small
    omega
  have bounded : adjusted coefficient (exponent + -placesOfNear) ≤ balances.greatest := by
    simp only [adjusted, balances, placesOfNear] at small ⊢
    omega
  obtain ⟨kept, power, fitted, far⟩ : ∃ kept power,
      balances.fit negative coefficient (exponent + -placesOfNear) =
        .finite negative kept power ∧ power ≤ _ :=
    Decimal.Context.fit_small (by decide) few bounded
  simp only [Decimal.Context.tiny, balances, placesOfNear] at far
  have nothing : balances.rounded (-reportPlaces) kept power = 0 :=
    Decimal.Context.rounded_of_far (by decide) (Decimal.Context.fit_few (by decide) fitted) (by
      simp only [balances, reportPlaces]
      omega)
  have nothing' : nearCoefficient coefficient exponent reportPlaces = 0 :=
    Decimal.Context.rounded_of_far (by decide) few (by
      simp only [balances, reportPlaces, placesOfNear]
      omega)
  rw [toNear_of_fit (by decide) fitted, nothing, nothing']

/-- A finite total is rounded once for the report. -/
theorem toNear_report (few : coefficient < 10 ^ 80) :
    toNear (.finite negative coefficient exponent) reportPlaces =
      atPlaces negative (nearCoefficient coefficient exponent reportPlaces) reportPlaces := by
  rcases le_or_gt (-999975) (adjusted coefficient exponent) with fine | small
  · rw [← Nat.mul_one coefficient, ← pow_zero 10] at fine ⊢
    exact toNear_of_digits negative few (.inr fine) (by decide)
  · exact toNear_of_small few small

theorem nearCoefficient_lt_iff :
    nearCoefficient coefficient exponent reportPlaces < 10 ^ 80 ↔
      Reportable (.finite negative coefficient exponent) := by
  have near := (isNearest_nearCoefficient coefficient exponent reportPlaces).lt_iff
    (by positivity : 0 < 10 ^ 80)
  have scale : (10 : ℚ) ^ (reportPlaces - placesOfNear) = (10 ^ 21)⁻¹ := by
    norm_num [reportPlaces, placesOfNear]
  have reportable : Reportable (.finite negative coefficient exponent) ↔
      magnitude coefficient exponent < (10 ^ 80 - 1 / 2) * 10 ^ 21 := by
    rw [Reportable, Decimal.value?, ← Decimal.abs_amount negative]
    simp only [Option.some.injEq, exists_eq_left']
  rw [reportable, ← Int.ofNat_lt, near, scale, ← div_eq_mul_inv, div_lt_iff₀ (by positivity),
    Nat.cast_pow, Nat.cast_ofNat]

/-- A total that can be shown is, and every other one is an invalid operation. -/
theorem toNear_outcome (fitted : Fitted total) :
    (Reportable total → ∃ near, toNear total reportPlaces = .ok near) ∧
      (¬ Reportable total → toNear total reportPlaces = .error .invalidOperation) := by
  cases total with
  | finite negative coefficient exponent =>
      rw [toNear_report fitted, ← nearCoefficient_lt_iff, atPlaces]
      constructor
      · intro short
        exact ⟨_, if_pos ⟨short, adjusted_le_of_few short (by decide)⟩⟩
      · intro long
        exact if_neg fun room => long room.1
  | infinite negative =>
      refine ⟨?_, fun _ => rfl⟩
      rintro ⟨amount, ⟨⟩, -⟩
  | nan _ _ _ => exact fitted.elim

/-- A report of account records fails at a record without a balance, whose fault may not even be put
into words, or it has a total. Whatever total can be shown is shown, and any other fails as an
invalid operation. -/
theorem report_outcome [Platform] (records : List Json) :
    (∃ record ∈ records, ∃ fault, Faulty record fault ∧
      ((fault.IsSayable ∧ sum records = .error (.record fault)) ∨
        (¬fault.IsSayable ∧ ∃ cause, sum records = .error (.unworded cause)))) ∨
      ∃ total, sum records = .ok total ∧
        (Reportable total → ∃ near, toNear total reportPlaces = .ok near ∧
          nearText total reportPlaces = .ok (near.toText ++ " NEAR")) ∧
        (¬ Reportable total → toNear total reportPlaces = .error .invalidOperation ∧
          nearText total reportPlaces = .error .invalidOperation) := by
  rcases sum_outcome records with ⟨record, member, fault, faulty, ends⟩ | ⟨total, summed, fitted⟩
  · refine .inl ⟨record, member, fault, faulty, ?_⟩
    by_cases sayable : fault.IsSayable
    · exact .inl ⟨sayable, ends.raised sayable⟩
    · exact .inr ⟨sayable, ends.unworded sayable⟩
  · rcases toNear_outcome fitted with ⟨shown, hidden⟩
    refine .inr ⟨total, summed, ?_, ?_⟩
    · intro reportable
      rcases shown reportable with ⟨near, rounded⟩
      exact ⟨near, rounded, by rw [nearText, rounded]; rfl⟩
    · intro great
      exact ⟨hidden great, by rw [nearText, hidden great]; rfl⟩

/-- Balances that are natural numbers are always reported if their sum has at most eighty digits. -/
theorem report_of_naturals [Platform] {records : List Json} {counts : List Nat}
    (natural : List.Forall₂ (fun record count => HasBalance record (count : Nat)) records counts)
    (few : counts.sum < 10 ^ 80) :
    ∃ total near, sum records = .ok total ∧ total.value? = some (counts.sum : ℚ) ∧
      toNear total reportPlaces = .ok near := by
  rcases (fitTogether_naturals natural few).sumsTo (Nat.zero_le _) with ⟨total, summed, value⟩
  rw [← Nat.cast_list_sum] at value
  have fitted : Fitted total := by
    rcases sum_outcome records with ⟨record, member, fault, faulty, ends⟩ |
      ⟨total', summed', fitted⟩
    · have counts := counts_iff.mpr (parse_of_sum summed record member)
      exact absurd counts (not_counts_of_faulty faulty)
    · rwa [Except.ok.inj (summed.symm.trans summed')]
  have small : |(counts.sum : ℚ)| < (10 ^ 80 - 1 / 2) * 10 ^ 21 := by
    have below : (counts.sum : ℚ) < 10 ^ 80 := by exact_mod_cast few
    rw [abs_of_nonneg (Nat.cast_nonneg _)]
    linarith
  rcases (toNear_outcome fitted).1 ⟨_, value, small⟩ with ⟨near, rounded⟩
  exact ⟨total, near, summed, value, rounded⟩

attribute [local instance] Platform.accepting Platform.printsAll_accepting

/-- A balance that is a number on its own can be too great for the report. -/
theorem report_overflows :
    (∃ balance, parse "a.near" "1e101" = .ok balance) ∧
      ∃ total, sum [.arr ["a.near", .obj [("storage_balance", "1e101")]]] = .ok total ∧
        toNear total reportPlaces = .error .invalidOperation := by
  refine ⟨⟨_, rfl⟩, ⟨_, rfl, ?_⟩⟩
  rfl

end Balance

end SocialMigration
