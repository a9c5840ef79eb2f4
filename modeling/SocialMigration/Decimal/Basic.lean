import SocialMigration.Numeral
import SocialMigration.Rounding

/-!
# Decimal numbers

Balances are decimal floating-point numbers: a coefficient times a power of ten, with a sign that
zero has too, or one of the values that are not finite. A context bounds the coefficient and the
exponent; fitting a number into it rounds once, to as many digits as the context keeps or to the
smallest exponent it has, whichever comes first.
-/

namespace SocialMigration

/-- A decimal number. A finite one is `coefficient * 10 ^ exponent` with a sign; a value that is no
number may carry a payload, and a signaling one may not take part in arithmetic. -/
inductive Decimal where
  | finite (negative : Bool) (coefficient : Nat) (exponent : Int)
  | infinite (negative : Bool)
  | nan (negative signaling : Bool) (payload : Nat)
  deriving DecidableEq, Repr

namespace Decimal

/-- The exponent of the first digit of a finite number in scientific notation. -/
def adjusted (coefficient : Nat) (exponent : Int) : Int :=
  exponent + Numeral.length coefficient - 1

/-- A coefficient without its last `places` digits, rounded. One that has fewer digits than that is
less than half a unit. -/
def dropDigits (tie : Tie) (coefficient places : Nat) : Nat :=
  if Numeral.length coefficient < places then 0
  else roundedQuotient tie coefficient (Nat.pow 10 places)

/-- Whether a number is finite. -/
def isFinite : Decimal → Bool
  | finite .. => true
  | _ => false

/-- The bounds within which numbers are kept: the digits of a coefficient, where a tie goes, and the
adjusted exponents of the least and the greatest number of full precision. -/
structure Context where
  precision : Nat
  tie : Tie
  least : Int
  greatest : Int

namespace Context

/-- The context of balances: eighty digits hold every sum of 128-bit amounts exactly. -/
def balances : Context := ⟨80, .up, -999999, 999999⟩

/-- The context in which the unit of a number of places is formed. -/
def units : Context := ⟨28, .even, -999999, 999999⟩

/-- The least exponent of a context. -/
def tiny (context : Context) : Int :=
  context.least - context.precision + 1

/-- The exponent of a zero, moved between the bounds of a context. -/
def zeroExponent (context : Context) (exponent : Int) : Int :=
  max context.tiny (min context.greatest exponent)

/-- A finite number fitted into a context. Too great a number becomes infinite. -/
def fit (context : Context) (negative : Bool) (coefficient : Nat) (exponent : Int) : Decimal :=
  if coefficient == 0 then .finite negative 0 (context.zeroExponent exponent)
  else if context.greatest < adjusted coefficient exponent then .infinite negative
  else
    let excess : Int := max (Numeral.length coefficient - context.precision)
      (context.tiny - exponent)
    if excess ≤ 0 then .finite negative coefficient exponent
    else
      let kept := dropDigits context.tie coefficient excess.toNat
      if kept == Nat.pow 10 context.precision then
        let exponent := exponent + excess + 1
        let coefficient := Nat.pow 10 (context.precision - 1)
        if context.greatest < adjusted coefficient exponent then .infinite negative
        else .finite negative coefficient exponent
      else .finite negative kept (exponent + excess)

end Context

end Decimal

end SocialMigration
