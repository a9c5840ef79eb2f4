import SocialMigration.Text.Composition
import SocialMigration.Text.LowerCase
import SocialMigration.Url.LabelLetter
import SocialMigration.Url.Punycode

/-!
# Labels of host names

A host name consists of labels between points. A label with other than ASCII characters has to obey
rules: it is composed, its hyphens do not make it look like an encoded one, it does not start with a
mark, its characters are small letters, digits and marks, some others stand only where they belong,
and its directions do not clash. It is then written in ASCII.
-/

namespace SocialMigration

namespace Label

/-- The greatest length of a label in ASCII. -/
def lengthLimit : Nat := 63

/-- The start of labels that are written in ASCII. -/
def asciiPrefix : Text := "xn--"

/-- Whether a text is all ASCII. -/
def isAscii (text : Text) : Bool :=
  text.all (·.val < 0x80)

/-- Whether the hyphens of a label are neither its ends nor its third and fourth characters. -/
def hasGoodHyphens (label : Text) : Bool :=
  !((label.drop 2).take 2 == [0x2D, 0x2D]) && label.head? != some 0x2D &&
    label.getLast? != some 0x2D

/-- Whether a mark that keeps letters apart, or joins them, stands between letters that would join
otherwise. The letters before it are given nearest first. -/
def partsJoiners (before after : Text) : Bool :=
  let joins (test : CodePoint → Bool) (side : Text) :=
    match side.dropWhile CodePoint.isMark with
    | c :: _ => test c
    | [] => false
  joins CodePoint.joinsNext before && joins CodePoint.joinsPrevious after

/-- Whether the nearest character on a side passes a test. -/
def isNext (test : CodePoint → Bool) (side : Text) : Bool :=
  match side with
  | c :: _ => test c
  | [] => false

/-- Whether a character of a label stands where it may, given what is before it, nearest first, and
after it. -/
def isInPlace (label before : Text) (c : CodePoint) (after : Text) : Bool :=
  if c == 0xB7 then isNext (· == 0x6C) before && isNext (· == 0x6C) after
  else if c == 0x375 then isNext (·.within CodePoint.greekRanges) after
  else if c == 0x5F3 || c == 0x5F4 then isNext (·.within CodePoint.hebrewRanges) before
  else if c == 0x30FB then label.any fun d => d != c && d.within CodePoint.japaneseRanges
  else if 0x660 ≤ c.val && c.val ≤ 0x669 then
    !label.any fun d => 0x6F0 ≤ d.val && d.val ≤ 0x6F9
  else if 0x6F0 ≤ c.val && c.val ≤ 0x6F9 then
    !label.any fun d => 0x660 ≤ d.val && d.val ≤ 0x669
  else if c == 0x200C then isNext CodePoint.isVirama before || partsJoiners before after
  else if c == 0x200D then isNext CodePoint.isVirama before
  else c.isLabelLetter

/-- Whether the characters of the rest of a label stand where they may. -/
def areInPlace (label before : Text) : Text → Bool
  | [] => true
  | c :: after => isInPlace label before c after && areInPlace label (c :: before) after

/-- Whether a direction belongs to text from right to left. -/
def isFromRight : CodePoint.Direction → Bool
  | .rightToLeft => true
  | .arabicNumber => true
  | _ => false

/-- Whether text from right to left may end in a direction. -/
def mayEnd : CodePoint.Direction → Bool
  | .rightToLeft => true
  | .arabicNumber => true
  | .europeanNumber => true
  | _ => false

/-- Whether the directions of a label do not clash. A label with anything from right to left has to
be so from its start to its end, where marks do not count, and must not mix two kinds of digits. -/
def hasGoodDirections (label : Text) : Bool :=
  let directions := label.map CodePoint.direction
  !directions.any isFromRight ||
    (directions.head? == some .rightToLeft && !directions.contains .leftToRight &&
      !(directions.contains .arabicNumber && directions.contains .europeanNumber) &&
      match directions.reverse.dropWhile (· == .attached) with
      | last :: _ => mayEnd last
      | [] => false)

/-- Whether a label of small letters obeys the rules. -/
def isValid (label : Text) : Bool :=
  !label.isEmpty && areInPlace label [] label && label.composed == label && hasGoodHyphens label &&
    !isNext CodePoint.isMark label && hasGoodDirections label

/-- A label of small letters in ASCII, if it obeys the rules and is not too long. -/
def inAscii? (label : Text) : Option Text :=
  let written := if isAscii label then label else asciiPrefix ++ Punycode.encode label
  if isValid label && written.length ≤ lengthLimit then some written else none

end Label

end SocialMigration
