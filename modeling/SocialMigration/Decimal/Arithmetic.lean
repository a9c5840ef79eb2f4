import SocialMigration.Decimal.Basic

/-!
# Decimal arithmetic

The sum of two numbers, a number times a power of ten, and a number rounded to a number of places.
Each operation forms its exact result first and fits it into the context once. An operation that
has no result in the context answers nothing.
-/

namespace SocialMigration

namespace Decimal

/-- A coefficient with the sign of its number. -/
def signedCoefficient (negative : Bool) (coefficient : Nat) : Int :=
  if negative then -coefficient else coefficient

namespace Context

/-- The payload of a value that is no number, cut to the digits that the context keeps. -/
def quiet? (context : Context) (negative signaling : Bool) (payload : Nat) : Option Decimal :=
  if signaling then none else some (.nan negative false (payload % Nat.pow 10 context.precision))

/-- The sum of two finite numbers: aligned at the smaller exponent, added exactly, and fitted. A
sum of zero is negative only if both numbers are. -/
def addFinite (context : Context) (negative : Bool) (coefficient : Nat) (exponent : Int)
    (negative' : Bool) (coefficient' : Nat) (exponent' : Int) : Decimal :=
  let common := min exponent exponent'
  let sum :=
    signedCoefficient negative (coefficient * Nat.pow 10 (exponent - common).toNat) +
      signedCoefficient negative' (coefficient' * Nat.pow 10 (exponent' - common).toNat)
  let negative := if sum == 0 then negative && negative' else sum < 0
  context.fit negative sum.natAbs common

/-- The sum of two numbers. An infinite number outweighs every finite one; infinite numbers of
opposite signs have no sum. -/
def add (context : Context) : Decimal → Decimal → Option Decimal
  | .nan negative signaling payload, _ => context.quiet? negative signaling payload
  | _, .nan negative signaling payload => context.quiet? negative signaling payload
  | .infinite negative, .infinite negative' =>
    if negative == negative' then some (.infinite negative) else none
  | .infinite negative, .finite .. => some (.infinite negative)
  | .finite .., .infinite negative => some (.infinite negative)
  | .finite negative coefficient exponent, .finite negative' coefficient' exponent' =>
    some (context.addFinite negative coefficient exponent negative' coefficient' exponent')

/-- A number times a power of ten. -/
def scale (context : Context) (power : Int) : Decimal → Option Decimal
  | .finite negative coefficient exponent =>
    some (context.fit negative coefficient (exponent + power))
  | .infinite negative => some (.infinite negative)
  | .nan negative signaling payload => context.quiet? negative signaling payload

/-- The coefficient of a nonzero finite number at another exponent, rounded if digits are dropped.
None if it would not fit the precision. -/
def coefficientAt? (context : Context) (target : Int) (coefficient : Nat) (exponent : Int) :
    Option Nat :=
  if context.precision < Numeral.length coefficient + (exponent - target) then none
  else if target ≤ exponent then some (coefficient * Nat.pow 10 (exponent - target).toNat)
  else
    let kept := dropDigits context.tie coefficient (target - exponent).toNat
    if context.precision < Numeral.length kept then none else some kept

/-- A number at the exponent `target`, rounded if digits are dropped. It has to fit the context
without a change. -/
def quantize (context : Context) (target : Int) : Decimal → Option Decimal
  | .finite negative coefficient exponent =>
    if target < context.tiny || context.greatest < target then none
    else if coefficient == 0 then some (.finite negative 0 target)
    else
      match context.coefficientAt? target coefficient exponent with
      | none => none
      | some kept =>
        if context.greatest < adjusted kept target then none
        else some (.finite negative kept target)
  | .infinite _ => none
  | .nan negative signaling payload => context.quiet? negative signaling payload

/-- The greatest distance by which an exponent can be moved. -/
def reach (context : Context) : Int :=
  2 * (context.greatest + context.precision)

end Context

/-- Why a number of places has no unit. -/
inductive UnitFault where
  | outOfReach
  | tooGreat
  deriving DecidableEq, Repr

/-- The exponent of the unit of a number of decimal places, which may be negative. A unit below the
least exponent becomes a zero there. -/
def unitExponent (places : Int) : Except UnitFault Int :=
  if Context.units.reach < places.natAbs then .error .outOfReach
  else if Context.units.greatest < -places then .error .tooGreat
  else .ok (max Context.units.tiny (-places))

end Decimal

end SocialMigration
