/-!
# Positional numerals

The digits of a natural number in a base, the number that a list of digits denotes, and the count
of decimal digits. The count is found from the binary logarithm, because balances in exponent
notation reach a million digits; an estimate is used only after it has been checked.
-/

namespace SocialMigration

namespace Numeral

/-- The digits of a number in a base, most significant first; zero has one digit. The number itself
bounds how often it can be divided. -/
def digits (base n : Nat) : List Nat :=
  go (n + 1) n []
where
  go : Nat → Nat → List Nat → List Nat
    | 0, _, found => found
    | rounds + 1, n, found =>
      if n < base then n :: found else go rounds (n / base) (n % base :: found)

/-- The number that a list of digits denotes, most significant first. -/
def value (base : Nat) (digits : List Nat) : Nat :=
  digits.foldl (fun n digit => n * base + digit) 0

/-- Whether a number has exactly `count + 1` decimal digits, zero counting as one digit long. -/
def hasDigits (n count : Nat) : Bool :=
  (count == 0 || Nat.pow 10 count ≤ n) && n < Nat.pow 10 (count + 1)

/-- How many decimal digits a number has. -/
def length (n : Nat) : Nat :=
  let estimate := n.log2 * 30103 / 100000
  match [estimate, estimate + 1, estimate - 1].find? (hasDigits n) with
  | some count => count + 1
  | none => (digits 10 n).length

/-- The number `n * 10 ^ power` without the zeros at the end of its digits, as far as the rounds
reach. -/
def dropZeros : (rounds : Nat) → (n : Nat) → (power : Int) → Nat × Int
  | 0, n, power => (n, power)
  | rounds + 1, n, power =>
    if n % 10 == 0 && n != 0 then dropZeros rounds (n / 10) (power + 1) else (n, power)

@[simp] theorem value_nil (base : Nat) : value base [] = 0 := rfl

theorem value_append_singleton (base : Nat) (front : List Nat) (last : Nat) :
    value base (front ++ [last]) = value base front * base + last := by
  simp [value]

end Numeral

end SocialMigration
