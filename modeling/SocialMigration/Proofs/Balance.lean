import SocialMigration.Balance
import SocialMigration.Proofs.Json.Nesting
import SocialMigration.Proofs.Outcome

/-!
# Totals of balances

A balance counts if it is read as a finite number, and what is wrong with any other names its
account, if it can be put into words. A sum of balances has a total only if every record has a
balance.
-/

namespace SocialMigration

namespace Balance

theorem isNumeral_of_number? {raw : Json} {number : Decimal} (read : number? raw = some number) :
    isNumeral raw = true := by
  cases raw with
  | int _ => rfl
  | str _ => rfl
  | _ => exact nomatch read

theorem finite_eq_ok_iff {account raw : Json} {balance : Decimal} :
    finite account raw = .ok balance ↔ number? raw = some balance ∧ balance.isFinite = true := by
  constructor
  · intro found
    rw [finite] at found
    split at found
    · exact nomatch found
    · split at found
      · exact nomatch found
      · rename_i value read
        split at found
        · rename_i finite
          cases found
          exact ⟨read, finite⟩
        · exact nomatch found
  · rintro ⟨read, isFinite⟩
    simp [finite, isNumeral_of_number? read, read, isFinite]

/-- What is wrong with a balance is about its account and quotes it. -/
inductive Fault.IsAbout (account raw : Json) : Fault → Prop where
  | notADecimalString : IsAbout account raw (.notADecimalString account raw)
  | notADecimal : IsAbout account raw (.notADecimal account raw)
  | notFinite : IsAbout account raw (.notFinite account raw)

theorem isAbout_of_finite {account raw : Json} {fault : Fault}
    (failed : finite account raw = .error fault) : fault.IsAbout account raw := by
  rw [finite] at failed
  split at failed
  · cases failed
    exact .notADecimalString
  · split at failed
    · cases failed
      exact .notADecimal
    · split at failed
      · exact nomatch failed
      · cases failed
        exact .notFinite

/-- Whatever is wrong with a balance, its account is named. -/
theorem Fault.IsAbout.account_eq {account raw : Json} {fault : Fault}
    (about : fault.IsAbout account raw) : fault.account = account := by
  cases about <;> rfl

section

variable [Platform] {account raw record : Json} {balance total : Decimal} {fault : Fault}

/-- Whether a complaint about the balance of an account can be put into words. -/
structure IsSayable (account raw : Json) : Prop where
  account : Place.balance.Shows account
  balance : Place.balance.Fits raw

/-- Whether a fault can be put into words. -/
def Fault.IsSayable : Fault → Prop
  | malformedRecord record => Place.record.Fits record
  | notADecimalString account raw
  | notADecimal account raw
  | notFinite account raw => Balance.IsSayable account raw

theorem Fault.unworded?_eq_none_iff : fault.unworded? = none ↔ fault.IsSayable := by
  cases fault with
  | malformedRecord record => exact Place.unworded?_eq_none_iff
  | notADecimalString account raw | notADecimal account raw | notFinite account raw =>
      rw [unworded?, Option.or_eq_none_iff, Place.unshown?_eq_none_iff,
        Place.unworded?_eq_none_iff]
      exact ⟨fun ⟨shown, quoted⟩ => ⟨shown, quoted⟩, fun ⟨shown, quoted⟩ => ⟨shown, quoted⟩⟩

/-- A fault is raised as what it is, if it can be put into words. -/
theorem ofFault_of_isSayable (sayable : fault.IsSayable) :
    ReportFault.ofFault fault = .record fault := by
  rw [ReportFault.ofFault, Fault.unworded?_eq_none_iff.mpr sayable]

/-- A fault that cannot be put into words is raised as that. -/
theorem ofFault_of_not_isSayable (unsayable : ¬fault.IsSayable) :
    ∃ cause, ReportFault.ofFault fault = .unworded cause := by
  cases worded : fault.unworded? with
  | none => exact absurd (Fault.unworded?_eq_none_iff.mp worded) unsayable
  | some cause => exact ⟨cause, by rw [ReportFault.ofFault, worded]⟩

theorem parse_eq_ok_iff :
    parse account raw = .ok balance ↔ number? raw = some balance ∧ balance.isFinite = true :=
  mapError_eq_ok_iff.trans finite_eq_ok_iff

theorem parse_of_sumFrom {records : List Json} {sum : Decimal}
    (summed : sumFrom total records = .ok sum) :
    ∀ record ∈ records, ∃ balance, parseRecord record = .ok balance := by
  induction records generalizing total with
  | nil => simp
  | cons record records ih =>
      rw [sumFrom] at summed
      split at summed
      · exact nomatch summed
      · rename_i balance parsed
        split at summed
        · exact nomatch summed
        · rw [List.forall_mem_cons]
          exact ⟨⟨balance, parsed⟩, ih summed⟩

/-- Where the balances have a total, each record has a balance. -/
theorem parse_of_sum {records : List Json} (summed : sum records = .ok total) :
    ∀ record ∈ records, ∃ balance, parseRecord record = .ok balance :=
  parse_of_sumFrom summed

end

end Balance

end SocialMigration
