import SocialMigration.Decimal.Basic
import SocialMigration.Text.Basic

/-!
# Writing decimal numbers

A finite number is written positionally unless its exponent is positive or its first digit stands
too far behind the point; then it has one digit before the point and an exponent. Gas amounts are
always positional.
-/

namespace SocialMigration

namespace Decimal

/-- Digits with a point after the first `point` of them; zeros fill the gap if the point stands
before them. The point is left out if nothing follows it. -/
def withPoint (digits : Text) (point : Int) : Text :=
  if point ≤ 0 then [0x30, 0x2E] ++ List.replicate point.natAbs 0x30 ++ digits
  else if digits.length ≤ point then digits
  else digits.take point.natAbs ++ [0x2E] ++ digits.drop point.natAbs

/-- The minus of a negative number. -/
def minus (negative : Bool) : Text :=
  if negative then "-" else []

/-- The exponent of scientific notation, with its sign. -/
def exponentText (exponent : Int) : Text :=
  "E" ++ (if exponent < 0 then "-" else "+") ++ Text.ofNat exponent.natAbs

/-- A finite number without its sign. -/
def magnitudeText (coefficient : Nat) (exponent : Int) : Text :=
  let digits := Text.ofNat coefficient
  let point : Int := digits.length + exponent
  if exponent ≤ 0 && -6 < point then withPoint digits point
  else withPoint digits 1 ++ exponentText (point - 1)

/-- The text of a number. -/
def toText : Decimal → Text
  | finite negative coefficient exponent => minus negative ++ magnitudeText coefficient exponent
  | infinite negative => minus negative ++ "Infinity"
  | nan negative signaling payload =>
    minus negative ++ (if signaling then "sNaN" else "NaN") ++
      (if payload == 0 then [] else Text.ofNat payload)

/-- A finite number in positional notation. -/
def plainText (negative : Bool) (coefficient : Nat) (exponent : Int) : Text :=
  let digits := Text.ofNat coefficient
  minus negative ++
    if exponent ≤ 0 then withPoint digits (digits.length + exponent)
    else digits ++ List.replicate exponent.toNat 0x30

end Decimal

end SocialMigration
