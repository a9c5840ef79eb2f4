import SocialMigration.Proofs.Decimal.Grammar
import SocialMigration.Proofs.Settings.Literal

/-!
# The grammar of integer settings

How an integer may be written as the value of a setting: an optional sign, and digits of any scripts
with single underscores between them, as many as there may be. Whatever is written so is read as the
integer that it denotes, and nothing else is read. The decimal text of an integer is one of its
spellings, whatever blanks stand around it.
-/

namespace SocialMigration

namespace Settings

open Decimal (Sign signedCoefficient)

/-- At least one digit, of any scripts, with at most one underscore between neighbours, and the
values of the digits. -/
inductive Spells : Text → List Nat → Prop where
  | last {c : CodePoint} {digit : Nat} (value : c.digitValue? = some digit) : Spells [c] [digit]
  | next {c : CodePoint} {digit : Nat} {rest : Text} {digits : List Nat}
      (value : c.digitValue? = some digit) (spells : Spells rest digits) :
      Spells (c :: rest) (digit :: digits)
  | underscore {c : CodePoint} {digit : Nat} {rest : Text} {digits : List Nat}
      (value : c.digitValue? = some digit) (spells : Spells rest digits) :
      Spells (c :: 0x5F :: rest) (digit :: digits)

/-- Which integer a literal denotes. -/
inductive Denotes : Text → Int → Prop where
  | literal {sign text : Text} {negative : Bool} {digits : List Nat} (signed : Sign sign negative)
      (spells : Spells text digits) (few : digits.length ≤ digitLimit) :
      Denotes (sign ++ text) (signedCoefficient negative (Numeral.value 10 digits))

variable {text rest before after : Text} {c : CodePoint} {digit : Nat} {digits : List Nat}
  {value other : Int}

/-! ## Digits -/

theorem Spells.head (spells : Spells text digits) :
    ∃ c rest digit, text = c :: rest ∧ c.digitValue? = some digit := by
  cases spells with
  | last value | next value _ | underscore value _ => exact ⟨_, _, _, rfl, value⟩

theorem Spells.solid (spells : Spells text digits) : ∀ c ∈ text, c.isBlank = false := by
  induction spells with
  | last value => exact List.forall_mem_singleton.mpr (Text.isBlank_of_digit value)
  | next value _ ih => exact List.forall_mem_cons.mpr ⟨Text.isBlank_of_digit value, ih⟩
  | underscore value _ ih =>
      exact List.forall_mem_cons.mpr ⟨Text.isBlank_of_digit value,
        List.forall_mem_cons.mpr ⟨by decide, ih⟩⟩

/-- Digits that are read after a digit are spelled together with it. -/
theorem Spells.of_moreDigits? (first : c.digitValue? = some digit)
    (found : moreDigits? rest = some digits) : Spells (c :: rest) (digit :: digits) := by
  fun_induction moreDigits? rest generalizing c digit digits with
  | case1 =>
      cases found
      exact .last first
  | case2 c' rest digit' value ih =>
      rcases Option.map_eq_some_iff.mp found with ⟨others, read, rfl⟩
      exact .next first (ih value read)
  | case3 c' _ mark d after digit' value ih =>
      rcases Option.map_eq_some_iff.mp found with ⟨others, read, rfl⟩
      rcases eq_of_beq mark with rfl
      exact .underscore first (ih value read)
  | case4 | case5 | case6 => exact nomatch found

theorem literalDigits?_eq_some_iff : literalDigits? text = some digits ↔ Spells text digits := by
  constructor
  · intro found
    cases text with
    | nil => cases found
    | cons c rest =>
        rw [literalDigits?] at found
        split at found
        · rename_i value
          rcases Option.map_eq_some_iff.mp found with ⟨others, read, rfl⟩
          exact .of_moreDigits? value read
        · cases found
  · intro spells
    -- Behind a first digit the others are read as on their own, be there an underscore or not.
    have more {rest : Text} {digits : List Nat} (spells : Spells rest digits)
        (read : literalDigits? rest = some digits) :
        moreDigits? rest = some digits ∧ moreDigits? (0x5F :: rest) = some digits := by
      rcases spells.head with ⟨d, after, digit', rfl, value⟩
      have mark : CodePoint.digitValue? 0x5F = none := by decide
      rw [literalDigits?, value] at read
      constructor
      · rw [moreDigits?.eq_def]
        simpa only [value] using read
      · rw [moreDigits?.eq_def]
        simpa only [mark, value, beq_self_eq_true, if_true] using read
    induction spells with
    | last value => simp [literalDigits?, value, moreDigits?]
    | next value spells ih => simp [literalDigits?, value, (more spells ih).1]
    | underscore value spells ih => simp [literalDigits?, value, (more spells ih).2]

/-! ## Integers -/

/-- A text is read as an integer exactly if it denotes that. -/
theorem integer?_eq_some_iff : integer? text = some value ↔ Denotes text value := by
  constructor
  · intro read
    rw [integer?] at read
    cases split : text.splitSign with
    | mk negative unsigned =>
        rcases Sign.of_splitSign split with ⟨sign, rfl, signed⟩
        simp only [split] at read
        cases found : literalDigits? unsigned with
        | none => simp [found] at read
        | some digits =>
            simp only [found, Option.ite_none_left_eq_some, Nat.not_lt, Option.some.injEq] at read
            rcases read with ⟨few, rfl⟩
            exact .literal signed (literalDigits?_eq_some_iff.mp found) few
  · rintro ⟨signed, spells, few⟩
    have unsigned : ∀ c ∈ (‹Text›).head?, c ≠ 0x2D ∧ c ≠ 0x2B := by
      rcases spells.head with ⟨c, rest, digit, rfl, value⟩
      rintro _ ⟨⟩
      exact ⟨(Text.ne_of_digit value).1, (Text.ne_of_digit value).2.1⟩
    simp only [integer?, signed.splitSign unsigned, literalDigits?_eq_some_iff.mpr spells,
      Nat.not_lt.mpr few, if_false]
    rfl

theorem Denotes.unique (denotes : Denotes text value) (denotes' : Denotes text other) :
    value = other :=
  Option.some.inj
    ((integer?_eq_some_iff.mpr denotes).symm.trans (integer?_eq_some_iff.mpr denotes'))

/-- Blanks around a literal are trimmed, and nothing of it. -/
theorem Denotes.trim (denotes : Denotes text value) (blank : ∀ c ∈ before, c.isBlank = true)
    (blank' : ∀ c ∈ after, c.isBlank = true) : (before ++ text ++ after).trim = text := by
  rcases denotes with ⟨signed, spells, -⟩
  refine Text.trim_append blank blank'
    (List.forall_mem_append.mpr ⟨signed.solid, spells.solid⟩) ?_
  rcases spells.head with ⟨c, rest, digit, rfl, -⟩
  exact List.append_ne_nil_of_right_ne_nil _ (List.cons_ne_nil _ _)

/-- The decimal text of an integer denotes it, if it is not too long. -/
theorem denotes_ofInt (few : (Numeral.digits 10 value.natAbs).length ≤ digitLimit) :
    Denotes (Text.ofInt value) value := by
  have literal {sign : Text} {negative : Bool} (n : Nat) (signed : Sign sign negative)
      (few : (Numeral.digits 10 n).length ≤ digitLimit) :
      Denotes (sign ++ Text.ofNat n) (signedCoefficient negative n) := by
    have denotes := Denotes.literal signed
      (literalDigits?_eq_some_iff.mp (literalDigits?_ofNat n)) few
    rwa [Numeral.value_digits (by decide)] at denotes
  cases value with
  | ofNat n => exact literal n .none few
  | negSucc n => exact literal (n + 1) .minus few

end Settings

end SocialMigration
