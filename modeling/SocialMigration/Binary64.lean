import SocialMigration.Rounding
import SocialMigration.Text.Basic

/-!
# Double-precision numbers

The numbers that a fraction or an exponent in JSON denotes: mantissa times a power of two, the
infinities, and the value that is no number. Reading rounds a decimal to the nearest double, ties
to the even mantissa. Writing gives the fewest decimal digits that read back, and of those the
nearest; both directions use exact arithmetic on natural numbers.
-/

namespace SocialMigration

/-- A double-precision number. A finite one is `mantissa * 2 ^ exponent`, with a sign that zero has
too. -/
inductive Binary64 where
  | finite (negative : Bool) (mantissa : Nat) (exponent : Int)
  | infinite (negative : Bool)
  | nan
  deriving DecidableEq, Repr

namespace Binary64

/-- The exponent of the smallest positive double. -/
def leastExponent : Int := -1074

/-- The exponent of the largest finite double. -/
def greatestExponent : Int := 971

/-- Whether a number is zero of either sign. -/
def isZero : Binary64 → Bool
  | finite _ mantissa _ => mantissa == 0
  | _ => false

/-- `n * base ^ exponent` as a numerator and a denominator. -/
def scale (base n : Nat) (exponent : Int) : Nat × Nat :=
  if exponent < 0 then (n, Nat.pow base exponent.natAbs)
  else (n * Nat.pow base exponent.natAbs, 1)

/-- The double nearest to the positive quotient of two natural numbers. Its mantissa stays below
2^53. -/
def ofQuotient (negative : Bool) (numerator denominator : Nat) : Binary64 :=
  let unitAt (exponent : Int) : Nat × Nat :=
    let (up, down) := scale 2 1 exponent
    (numerator * down, denominator * up)
  let estimate : Int := (numerator.log2 : Int) - denominator.log2 - 53
  let (n, d) := unitAt estimate
  let exponent := max leastExponent (if n / d < 0x20000000000000 then estimate else estimate + 1)
  let (n, d) := unitAt exponent
  let mantissa := roundedQuotient .even n d
  let (mantissa, exponent) :=
    if mantissa == 0x20000000000000 then (0x10000000000000, exponent + 1)
    else (mantissa, exponent)
  if greatestExponent < exponent then infinite negative else finite negative mantissa exponent

/-- The double nearest to `significand * 10 ^ exponent`. Values past either end of the range are
told by their digits alone, so that no enormous power is formed. -/
def ofDecimal (negative : Bool) (significand : Nat) (exponent : Int) : Binary64 :=
  let size : Int := Numeral.length significand + exponent
  if significand == 0 || size < -330 then finite negative 0 leastExponent
  else if 310 < size then infinite negative
  else
    let (numerator, denominator) := scale 10 significand exponent
    ofQuotient negative numerator denominator

/-- The interval of reals that read as a double, in quarters of its unit: the lower and the upper
end around four times the mantissa. Below a power of two the neighbour is only half as far. -/
def quarters (mantissa : Nat) (exponent : Int) : Nat × Nat :=
  let below := if mantissa == 0x10000000000000 && leastExponent < exponent then 1 else 2
  (4 * mantissa - below, 4 * mantissa + 2)

/-- Whether `digits * 10 ^ power` lies in the interval of a double; its ends count if the mantissa
is even. -/
def readsBack (mantissa : Nat) (exponent : Int) (digits : Nat) (power : Int) : Bool :=
  let (low, high) := quarters mantissa exponent
  let (n, d) := scale 10 digits power
  let (up, down) := scale 2 1 (exponent - 2)
  let point := n * down
  let low := low * up * d
  let high := high * up * d
  if mantissa % 2 == 0 then low ≤ point && point ≤ high else low < point && point < high

/-- The number on the grid of multiples of `10 ^ power` that writes a double, if one reads back:
of its two neighbours the nearer, and of two equally near the even one. -/
def onGrid? (mantissa : Nat) (exponent power : Int) : Option Nat :=
  let (n, d) := scale 2 mantissa exponent
  let (up, down) := scale 10 1 power
  let numerator := n * down
  let denominator := d * up
  let floor := numerator / denominator
  let twice := 2 * (numerator % denominator)
  let lower := readsBack mantissa exponent floor power
  let upper := readsBack mantissa exponent (floor + 1) power
  if lower && upper then
    some (if twice < denominator || (twice == denominator && floor % 2 == 0) then floor
      else floor + 1)
  else if lower then some floor
  else if upper then some (floor + 1)
  else none

/-- How many decimal digits stand before the point of `mantissa * 2 ^ exponent`; negative if zeros
follow the point. -/
def magnitude (mantissa : Nat) (exponent : Int) : Int :=
  let (n, d) := scale 2 mantissa exponent
  let estimate : Int := (Numeral.length n : Int) - Numeral.length d
  let (up, down) := scale 10 1 estimate
  if d * up ≤ n * down then estimate + 1 else estimate

/-- The shortest decimal `digits * 10 ^ power` that reads back as a positive double. Seventeen
digits always do. -/
def shortest (mantissa : Nat) (exponent : Int) : Nat × Int :=
  let size := magnitude mantissa exponent
  let grids := (List.range 17).map fun used : Nat => size - (used + 1 : Int)
  match grids.findSome? fun power => (onGrid? mantissa exponent power).map (·, power) with
  | some found => found
  | none => (0, 0)

/-- The layout of a positive number `digits * 10 ^ power`: positional while its first digit stands
at most four places behind or sixteen before the point, and then with at least one digit on either
side; otherwise with an exponent of a sign and at least two digits. -/
def layout (digits : Nat) (power : Int) : Text :=
  let text := Text.ofNat digits
  let point : Int := text.length + power
  if point < -3 || 16 < point then
    let fraction : Text := if text.length ≤ 1 then [] else 0x2E :: text.drop 1
    let shown := point - 1
    let sign : CodePoint := if shown < 0 then 0x2D else 0x2B
    text.take 1 ++ fraction ++ [0x65, sign] ++ Text.paddedNat 2 shown.natAbs
  else if point ≤ 0 then
    [0x30, 0x2E] ++ List.replicate point.natAbs 0x30 ++ text
  else if text.length ≤ point then
    text ++ List.replicate (point.natAbs - text.length) 0x30 ++ [0x2E, 0x30]
  else text.take point.natAbs ++ [0x2E] ++ text.drop point.natAbs

/-- The text of a positive finite double or of zero. -/
def magnitudeText (mantissa : Nat) (exponent : Int) : Text :=
  if mantissa == 0 then [0x30, 0x2E, 0x30]
  else
    let (digits, power) := shortest mantissa exponent
    let (digits, power) := Numeral.dropZeros 17 digits power
    layout digits power

/-- How the values that are not finite are written. -/
structure Spelling where
  nan : Text
  infinity : Text

/-- The text of a double; the sign of a negative one comes first. -/
def toText (spelling : Spelling) : Binary64 → Text
  | finite negative mantissa exponent =>
    (if negative then [0x2D] else []) ++ magnitudeText mantissa exponent
  | infinite negative => (if negative then [0x2D] else []) ++ spelling.infinity
  | nan => spelling.nan

end Binary64

end SocialMigration
