import SocialMigration.Platform

/-!
# Arithmetic progressions

The offsets at which pages and batches start: from a first offset in equal steps up to a limit that
is not reached. Steps may go down as well, towards a limit below.
-/

namespace SocialMigration

namespace Progression

/-- How many steps it takes to go from `start` up to `limit` or past it. -/
def stepsUp (start limit step : Int) : Nat :=
  ((limit - start + step - 1) / step).toNat

/-- The number of offsets from `start` towards `limit`, which does not count. -/
def count (start limit step : Int) : Nat :=
  if 0 < step then stepsUp start limit step
  else if step < 0 then stepsUp (-start) (-limit) (-step)
  else 0

/-- The offsets from `start` towards `limit` in steps of `step`. -/
def offsets (start limit step : Int) : List Int :=
  (List.range (count start limit step)).map fun index : Nat => start + index * step

/-- The greatest number of offsets that can be counted, 2^63 - 1. -/
def countLimit : Nat := 0x7FFFFFFFFFFFFFFF

/-- Why offsets are not listed. -/
inductive Obstacle where
  | zeroStep
  | uncountable
  | noRoom
  deriving DecidableEq, Repr

/-- What stands in the way of listing offsets, if anything does. -/
def obstacle? [Platform] (start limit step : Int) : Option Obstacle :=
  let count := count start limit step
  if step == 0 then some .zeroStep
  else if countLimit < count then some .uncountable
  else if Platform.offsetRoom < count then some .noRoom
  else none

end Progression

end SocialMigration
