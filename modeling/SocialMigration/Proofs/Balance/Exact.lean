import Mathlib
import SocialMigration.Proofs.Balance
import SocialMigration.Proofs.Decimal.Grammar
import SocialMigration.Proofs.Decimal.Value

/-!
# Exact totals

Balances that are multiples of one power of ten, and of which all together have at most eighty
digits, are added without rounding: the invariant is that every total on the way is such a multiple
too, and no greater than what the remaining balances leave room for.
-/

namespace SocialMigration

namespace Balance

/-- The amount that a balance denotes: an integer, or a numeral that may stand between blanks. -/
inductive Denotes : Json → ℚ → Prop where
  | integer (value : Int) : Denotes (.int value) value
  | numeral {before text after : Text} {negative : Bool} {coefficient : Nat} {exponent : Int}
      (blank : ∀ c ∈ before, c.isBlank = true) (blank' : ∀ c ∈ after, c.isBlank = true)
      (spelled : Decimal.Spells text negative coefficient exponent) :
      Denotes (.str (before ++ text ++ after)) (Decimal.amount negative coefficient exponent)

/-- A well-formed record of an account, and the amount of its balance. -/
inductive HasBalance : Json → ℚ → Prop where
  | record {account raw : Json} {fields : List (Text × Json)} {amount : ℚ}
      (found : (Json.obj fields).field? "storage_balance" = some raw)
      (denoted : Denotes raw amount) : HasBalance (.arr [account, .obj fields]) amount

/-- Records whose balances are multiples of one power of ten and leave room for their sum. -/
structure FitTogether (places : Nat) (records : List Json) (amounts : List ℚ) : Prop where
  balances : List.Forall₂ HasBalance records amounts
  multiples : ∀ amount ∈ amounts, ∃ count : ℤ, amount = count * 10 ^ (-(places : ℤ))
  room : (amounts.map abs).sum < 10 ^ (80 - (places : ℤ))

/-- Whether the sum of the balances is a number, and exactly this one. -/
def SumsTo [Platform] (records : List Json) (amount : ℚ) : Prop :=
  ∃ total, sum records = .ok total ∧ total.value? = some amount

variable {places : Nat} {records : List Json} {record raw : Json} {amount : ℚ} {amounts : List ℚ}

/-- The context of balances keeps a multiple of a power of ten that is not too fine, unless it has
too many digits. -/
theorem keeps_of_multiple (reach : places ≤ 999999) {count : ℤ}
    (multiple : amount = count * 10 ^ (-(places : ℤ)))
    (room : |amount| < 10 ^ (80 - (places : ℤ))) : Decimal.Context.balances.Keeps |amount| := by
  have scale := Decimal.zpow_pos_ten (-places)
  have size : |amount| = Decimal.magnitude count.natAbs (-places) := by
    rw [multiple, abs_mul, abs_of_pos scale, Decimal.magnitude, Nat.cast_natAbs, Int.cast_abs]
  constructor
  · refine ⟨count.natAbs, -places, size, ?_, ?_⟩
    · rw [size, Decimal.magnitude, sub_eq_add_neg, zpow_add₀ (by norm_num),
        mul_lt_mul_iff_left₀ scale] at room
      exact_mod_cast room
    · simp only [Decimal.Context.tiny, Decimal.Context.balances]
      omega
  · exact room.trans_le (zpow_le_zpow_right₀ (by norm_num) (by
      simp only [Decimal.Context.balances]
      omega))

theorem amount_int (value : Int) :
    Decimal.amount (value < 0) value.natAbs 0 = value := by
  rw [Decimal.amount_natAbs fun _ => rfl, zpow_zero, mul_one]

/-- A balance is read as the amount that it denotes, fitted into the context. -/
theorem Denotes.fitted (denoted : Denotes raw amount) :
    ∃ negative coefficient exponent, amount = Decimal.amount negative coefficient exponent ∧
      Balance.number? raw =
        some (Decimal.Context.balances.fit negative coefficient exponent) := by
  cases denoted with
  | integer value => exact ⟨_, _, 0, (amount_int value).symm, rfl⟩
  | numeral blank blank' spelled =>
      refine ⟨_, _, _, rfl, ?_⟩
      rw [Balance.number?, spelled.trim blank blank', Decimal.Context.read?, spelled.read]
      rfl

/-- A balance whose amount is kept is read as that amount. -/
theorem Denotes.number? (denoted : Denotes raw amount)
    (keeps : Decimal.Context.balances.Keeps |amount|) :
    ∃ number, Balance.number? raw = some number ∧ number.value? = some amount := by
  rcases denoted.fitted with ⟨negative, coefficient, exponent, rfl, read⟩
  exact ⟨_, read, keeps.value?_fit⟩

theorem HasBalance.parseRecord [Platform] (balance : HasBalance record amount)
    (keeps : Decimal.Context.balances.Keeps |amount|) :
    ∃ number, Balance.parseRecord record = .ok number ∧ number.value? = some amount := by
  cases balance with
  | @record account _ fields _ found denoted =>
      rcases denoted.number? keeps with ⟨number, read, value⟩
      have counts : finiteOfRecord (.arr [account, .obj fields]) = .ok number := by
        rw [finiteOfRecord, ofRecord?, found]
        exact finite_eq_ok_iff.mpr ⟨read, Decimal.isFinite_of_value? value⟩
      exact ⟨number, mapError_eq_ok_iff.mpr counts, value⟩

/-- The balances that remain are added without rounding to a total that is a multiple as well. -/
theorem sumFrom_exact [Platform] (reach : places ≤ 999999)
    (balances : List.Forall₂ HasBalance records amounts) :
    ∀ {total : Decimal} {start : ℚ}, total.value? = some start →
      (∀ amount ∈ start :: amounts, ∃ count : ℤ, amount = count * 10 ^ (-(places : ℤ))) →
      |start| + (amounts.map abs).sum < 10 ^ (80 - (places : ℤ)) →
      ∃ final, sumFrom total records = .ok final ∧ final.value? = some (start + amounts.sum) := by
  induction balances with
  | nil =>
      intro total start value _ _
      exact ⟨total, rfl, by rw [value, List.sum_nil, add_zero]⟩
  | @cons record amount records amounts balance rest ih =>
      intro total start value multiples room
      rw [List.map_cons, List.sum_cons] at room
      rcases multiples start List.mem_cons_self with ⟨count, first⟩
      rcases multiples amount (by simp) with ⟨count', second⟩
      have others : (0 : ℚ) ≤ (amounts.map abs).sum := List.sum_nonneg (by simp)
      have larger := abs_add_le start amount
      have sum : start + amount = (count + count' : ℤ) * 10 ^ (-(places : ℤ)) := by
        rw [first, second, ← add_mul, Int.cast_add]
      -- The balances still to come leave room for this one and for the total with it.
      rcases balance.parseRecord
        (keeps_of_multiple reach second (by linarith [abs_nonneg start])) with
        ⟨number, parsed, denoted⟩
      rcases Decimal.Context.Keeps.value?_add value denoted
        (keeps_of_multiple reach sum (by linarith)) with ⟨next, added, value'⟩
      rcases ih value' (List.forall_mem_cons.mpr ⟨⟨_, sum⟩, fun other member =>
        multiples other (by simp [member])⟩) (by linarith) with ⟨final, summed, result⟩
      refine ⟨final, ?_, by rw [result, List.sum_cons, add_assoc]⟩
      rw [sumFrom, parsed]
      simp [addTo, added, summed]

theorem FitTogether.sumsTo [Platform] (reach : places ≤ 999999)
    (fits : FitTogether places records amounts) :
    SumsTo records amounts.sum := by
  have start : (Decimal.finite false 0 0).value? = some 0 := by
    simp [Decimal.value?, Decimal.amount, Decimal.signedCoefficient]
  have multiples := List.forall_mem_cons.mpr
    ⟨⟨0, by rw [Int.cast_zero, zero_mul]⟩, fits.multiples⟩
  have room := fits.room
  rw [← zero_add (amounts.map abs).sum, ← abs_zero] at room
  rcases sumFrom_exact reach fits.balances start multiples room with ⟨total, summed, value⟩
  exact ⟨total, summed, by rw [value, zero_add]⟩

/-- The order of records makes no difference to whether they leave room for their sum. -/
theorem FitTogether.reorder (fits : FitTogether places records amounts) {reordered : List Json}
    (order : reordered.Perm records) :
    ∃ amounts', amounts'.Perm amounts ∧ FitTogether places reordered amounts' := by
  rcases List.perm_comp_forall₂ order fits.balances with ⟨amounts', balances, same⟩
  refine ⟨amounts', same, balances, fun amount member => ?_, ?_⟩
  · exact fits.multiples amount (same.mem_iff.mp member)
  · rw [(same.map abs).sum_eq]
    exact fits.room

/-- Natural numbers leave room for their sum if that has at most eighty digits. -/
theorem fitTogether_naturals {counts : List Nat}
    (balances : List.Forall₂ (fun record count => HasBalance record (count : Nat)) records counts)
    (few : counts.sum < 10 ^ 80) : FitTogether 0 records (counts.map Nat.cast) := by
  refine ⟨List.forall₂_map_right_iff.mpr balances, ?_, ?_⟩
  · intro amount member
    rcases List.mem_map.mp member with ⟨count, -, rfl⟩
    exact ⟨count, by simp⟩
  · have sizes : ((counts.map Nat.cast).map abs : List ℚ) = counts.map Nat.cast := by
      simp [Function.comp_def]
    rw [sizes, ← Nat.cast_list_sum, Nat.cast_zero, sub_zero]
    exact_mod_cast few

/-- Records with balances of mixed forms: a numeral between blanks, an integer, and digits of
another script. -/
def mixedRecords : List Json :=
  [.arr ["a.near", .obj [("storage_balance", " -1.5e1\t")]],
   .arr ["b.near", .obj [("storage_balance", .int 7)]],
   .arr ["c.near", .obj [("storage_balance", "٢.5E-2")]]]

theorem spellsDigits_singleton {c : CodePoint} {value : Nat} (digit : c.digitValue? = some value) :
    Text.SpellsDigits [c] [value] :=
  .cons digit .nil

theorem denotes_blank : Denotes " -1.5e1\t" (-15) := by
  have spelled : Decimal.Spells [0x2D, 0x31, 0x2E, 0x35, 0x65, 0x31] true 15 0 :=
    .numeral .minus
      (.pointed (spellsDigits_singleton (rfl : CodePoint.digitValue? 0x31 = some 1))
        (spellsDigits_singleton (rfl : CodePoint.digitValue? 0x35 = some 5)) (by decide))
      (.written (.inl rfl) .none
        (spellsDigits_singleton (rfl : CodePoint.digitValue? 0x31 = some 1)) (by decide))
  have denoted : Denotes " -1.5e1\t" _ :=
    .numeral (List.forall_mem_singleton.mpr (by decide : CodePoint.isBlank 0x20 = true))
      (List.forall_mem_singleton.mpr (by decide : CodePoint.isBlank 0x9 = true)) spelled
  simpa [Decimal.amount, Decimal.signedCoefficient] using denoted

theorem fitTogether_mixed : FitTogether 3 mixedRecords [-15, 7, 1 / 40] := by
  have second : Denotes (.int 7) 7 := by exact_mod_cast Denotes.integer 7
  have third : Denotes "٢.5E-2" (1 / 40) := by
    have spelled : Decimal.Spells [0x662, 0x2E, 0x35, 0x45, 0x2D, 0x32] false 25 (-3) :=
      .numeral .none
        (.pointed (spellsDigits_singleton (rfl : CodePoint.digitValue? 0x662 = some 2))
          (spellsDigits_singleton (rfl : CodePoint.digitValue? 0x35 = some 5)) (by decide))
        (.written (.inr rfl) .minus
          (spellsDigits_singleton (rfl : CodePoint.digitValue? 0x32 = some 2)) (by decide))
    have denoted : Denotes "٢.5E-2" _ :=
      .numeral (List.forall_mem_nil _) (List.forall_mem_nil _) spelled
    norm_num [Decimal.amount, Decimal.signedCoefficient] at denoted
    exact denoted
  constructor
  · exact .cons (.record rfl denotes_blank)
      (.cons (.record rfl second) (.cons (.record rfl third) .nil))
  · simp only [List.forall_mem_cons]
    exact ⟨⟨-15000, by norm_num⟩, ⟨7000, by norm_num⟩, ⟨25, by norm_num⟩, List.forall_mem_nil _⟩
  · norm_num

/-- The total of balances is their exact sum, in whatever order the records come, if they are
multiples of one power of ten and the sum of their sizes has at most eighty digits. So it is for
natural numbers of which the sum has. -/
theorem sum_exact [Platform] :
    (∀ places ≤ 999999, ∀ records amounts, FitTogether places records amounts →
      ∀ reordered, reordered.Perm records → SumsTo reordered amounts.sum) ∧
    ∀ (records : List Json) (counts : List Nat),
      List.Forall₂ (fun record count => HasBalance record (count : Nat)) records counts →
      counts.sum < 10 ^ 80 → SumsTo records counts.sum := by
  constructor
  · intro places reach records amounts fits reordered order
    rcases fits.reorder order with ⟨amounts', same, fits'⟩
    rw [← same.sum_eq]
    exact fits'.sumsTo reach
  · intro records counts balances few
    rw [Nat.cast_list_sum]
    exact (fitTogether_naturals balances few).sumsTo (Nat.zero_le _)

attribute [local instance] Platform.accepting Platform.printsAll_accepting

theorem sum_exact_mixed :
    SumsTo mixedRecords.reverse (-(319 / 40)) ∧
      SumsTo [.arr ["d.near", .obj [("storage_balance", .int (2 ^ 128 - 1))]],
        .arr ["e.near", .obj [("storage_balance", .int (2 ^ 128 - 1))]]] (2 ^ 129 - 2 : Nat) := by
  constructor
  · have total := sum_exact.1 3 (by decide) _ _ fitTogether_mixed _ (List.reverse_perm _)
    norm_num at total
    exact total
  · have greatest (account : Json) :
        HasBalance (.arr [account, .obj [("storage_balance", .int (2 ^ 128 - 1))]])
          ((2 ^ 128 - 1 : Nat) : ℚ) := .record rfl (.integer (2 ^ 128 - 1 : Nat))
    exact sum_exact.2 _ [2 ^ 128 - 1, 2 ^ 128 - 1] (.cons (greatest _) (.cons (greatest _) .nil))
      (by decide)

end Balance

end SocialMigration
