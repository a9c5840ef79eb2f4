/-!
# Rounding

A quotient of natural numbers rounded to the nearest one. What happens halfway between two
neighbours is a choice: doubles and gas amounts go to the even neighbour, balances go up.
-/

namespace SocialMigration

/-- Where a quotient halfway between two neighbours goes. -/
inductive Tie where
  | even
  | up
  deriving DecidableEq, Repr

/-- A quotient rounded to the nearest natural number. -/
def roundedQuotient (tie : Tie) (numerator denominator : Nat) : Nat :=
  let quotient := numerator / denominator
  let twice := 2 * (numerator % denominator)
  if twice < denominator then quotient
  else if denominator < twice then quotient + 1
  else match tie with
    | .even => quotient + quotient % 2
    | .up => quotient + 1

end SocialMigration
