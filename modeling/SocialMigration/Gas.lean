import SocialMigration.Decimal.Arithmetic
import SocialMigration.Decimal.Printer

/-!
# Gas

Gas is counted in units, 10^12 of which make one Tgas. The signing tool takes amounts in Tgas, as
plain numerals of at most 28 significant digits. An amount beyond the greatest exponent has no
numeral.
-/

namespace SocialMigration

namespace Gas

/-- The decimal places between a unit of gas and one Tgas. -/
def placesOfTgas : Nat := 12

/-- The gas of a call unless another amount is set, the most that one call may have: 300 Tgas. -/
def standard : Int := 300 * 1000000000000

/-- An amount of gas in Tgas, without superfluous zeros, unless it is too great. -/
def toText? (gas : Int) : Option Text :=
  match Decimal.Context.units.fit (gas < 0) gas.natAbs (-placesOfTgas) with
  | .finite negative coefficient exponent =>
    let (coefficient, exponent) := Numeral.dropZeros 28 coefficient exponent
    let numeral :=
      if coefficient == 0 then Decimal.plainText negative 0 0
      else Decimal.plainText negative coefficient exponent
    some (numeral ++ " Tgas")
  | _ => none

end Gas

end SocialMigration
