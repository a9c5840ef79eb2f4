import SocialMigration.Text.Basic

/-!
# Labels in ASCII

A label with other than ASCII characters is written in ASCII by its ASCII characters, a hyphen if
there are any, and digits that tell which other characters to insert where. The insertions go by
ascending code points and, for equal ones, from left to right; each is the number of possible
insertions that are skipped. Numbers are written to a base of thirty-six, the lowest digit first,
with thresholds that adapt to the numbers seen so far.
-/

namespace SocialMigration

namespace Punycode

/-- The base of the digits. -/
def base : Nat := 36

/-- The lowest threshold of a digit. -/
def lowest : Nat := 1

/-- The highest threshold of a digit. -/
def highest : Nat := 26

/-- The character of a digit: letters first, then the decimal digits. -/
def digit (n : Nat) : CodePoint :=
  if n < 26 then .ofNat (0x61 + n) else .ofNat (0x30 + (n - 26))

/-- The threshold of the digit at a position, counted in steps of the base: a digit below it is the
last one. -/
def threshold (bias position : Nat) : Nat :=
  max lowest (min highest (position - bias))

theorem lowest_le_threshold (bias position : Nat) : lowest ≤ threshold bias position :=
  Nat.le_max_left _ _

/-- The digits of a number from a position on. -/
def digits (bias position n : Nat) : Text :=
  let least := threshold bias position
  if n < least then [digit n]
  else
    digit (least + (n - least) % (base - least)) ::
      digits bias (position + base) ((n - least) / (base - least))
termination_by n
decreasing_by
  have low := lowest_le_threshold bias position
  simp only [lowest] at low
  exact Nat.lt_of_le_of_lt (Nat.div_le_self _ _) (by omega)

/-- Divides a number by the range of a digit until it is small, and counts the divisions in steps of
the base. -/
def damp (n : Nat) : Nat × Nat :=
  if 455 < n then
    let (rest, steps) := damp (n / (base - lowest))
    (rest, steps + base)
  else (n, 0)
termination_by n
decreasing_by exact Nat.div_lt_self (by omega) (by decide)

/-- The bias after a number: how many characters there are then, and whether it was the first
number. -/
def adapt (n count : Nat) (isFirst : Bool) : Nat :=
  let halved := if isFirst then n / 700 else n / 2
  let (rest, steps) := damp (halved + halved / count)
  steps + base * rest / (rest + 38)

/-- The state between two insertions: the digits so far, the insertions skipped since the last one,
the bias, and the number of characters inserted or there from the start. -/
structure Writing where
  written : Text
  skipped : Nat
  bias : Nat
  handled : Nat

/-- Passes one character of the label while those with a given code point are inserted. -/
def pass (basicCount current : Nat) (writing : Writing) (c : CodePoint) : Writing :=
  if c.val < current then { writing with skipped := writing.skipped + 1 }
  else if c.val == current then
    { written := writing.written ++ digits writing.bias base writing.skipped
      skipped := 0
      bias := adapt writing.skipped (writing.handled + 1) (writing.handled == basicCount)
      handled := writing.handled + 1 }
  else writing

/-- Inserts the characters of a label, given their code points in ascending order and the first one
that is not accounted for yet. -/
def insertAll (label : Text) (basicCount : Nat) : (next : Nat) → List Nat → Writing → Writing
  | _, [], writing => writing
  | next, current :: rest, writing =>
    let skipped := writing.skipped + (current - next) * (writing.handled + 1)
    let passed := label.foldl (pass basicCount current) { writing with skipped }
    insertAll label basicCount (current + 1) rest { passed with skipped := passed.skipped + 1 }

/-- A label in ASCII. -/
def encode (label : Text) : Text :=
  let basic := label.filter (·.val < 0x80)
  let others := (label.filter (0x80 ≤ ·.val)).map (·.val)
  let writing := insertAll label basic.length 0x80 others.mergeSort.eraseDups
    ⟨[], 0, 72, basic.length⟩
  basic ++ (if basic.isEmpty then [] else [0x2D]) ++ writing.written

end Punycode

end SocialMigration
