import SocialMigration.Text.Digit

/-!
# Network addresses

The texts of numeric addresses that may stand in the place of a host name: four decimal numbers
between points, or up to eight hexadecimal groups between colons, of which one row of zero groups
may be left out and the last two may be written as four decimal numbers. A shape says how an address
is written; a strict one also bounds the decimal numbers.
-/

namespace SocialMigration

namespace Address

/-- The parts of a text between the occurrences of a code point. -/
def split (separator : CodePoint) : Text → List Text
  | [] => [[]]
  | c :: rest =>
    if c == separator then [] :: split separator rest
    else
      match split separator rest with
      | part :: parts => (c :: part) :: parts
      | [] => [[c]]

/-- Whether a text is written as a decimal number of an address. -/
def isOctetShape (text : Text) : Bool :=
  !text.isEmpty && text.length ≤ 3 && text.all CodePoint.isAsciiDigit

/-- Whether a text is a decimal number of an address: one byte, without leading zeros. -/
def isOctet (text : Text) : Bool :=
  isOctetShape text && (text == [0x30] || text.head? != some 0x30) &&
    Numeral.value 10 (text.map CodePoint.asciiDigitValue) < 256

/-- Whether a text consists of four decimal numbers that pass a test. -/
def isVersion4 (isNumber : Text → Bool) (text : Text) : Bool :=
  let parts := split 0x2E text
  parts.length == 4 && parts.all isNumber

/-- Whether a text is a hexadecimal group. -/
def isGroup (text : Text) : Bool :=
  !text.isEmpty && text.length ≤ 4 && text.all (·.hexValue?.isSome)

/-- The number of groups that parts between colons stand for: the last part may be four decimal
numbers, which are two groups, if these are told apart. -/
def groupCount? (isTail : Text → Bool) : List Text → Option Nat
  | [] => some 0
  | [part] => if isGroup part then some 1 else if isTail part then some 2 else none
  | part :: parts => if isGroup part then (groupCount? isTail parts).map (· + 1) else none

/-- The number of groups in a text. -/
def groupsIn? (isTail : Text → Bool) (text : Text) : Option Nat :=
  if text.isEmpty then some 0 else groupCount? isTail (split 0x3A text)

/-- A text cut at its first two colons in a row. -/
def cutAtGap? : Text → Option (Text × Text)
  | c :: d :: rest =>
    if c == 0x3A && d == 0x3A then some ([], rest)
    else (cutAtGap? (d :: rest)).map fun (before, after) => (c :: before, after)
  | _ => none

/-- Whether a text consists of eight groups, or of fewer with a gap. The decimal numbers at its end
have to pass a test. -/
def isVersion6 (isNumber : Text → Bool) (text : Text) : Bool :=
  match cutAtGap? text with
  | none => groupsIn? (isVersion4 isNumber) text == some 8
  | some (before, after) =>
    match groupsIn? (fun _ => false) before, groupsIn? (isVersion4 isNumber) after with
    | some first, some last => first + last ≤ 7
    | _, _ => false

/-- Whether a text is an address of four decimal numbers. -/
def isStrictVersion4 (text : Text) : Bool :=
  isVersion4 isOctet text

/-- Whether a text is an address of groups, after which a percent sign may set a zone apart. -/
def isStrictVersion6 (text : Text) : Bool :=
  match text.breakAt (· == 0x25) with
  | none => isVersion6 isOctet text
  | some (address, zone) => isVersion6 isOctet address && !zone.isEmpty && !zone.contains 0x25

end Address

end SocialMigration
