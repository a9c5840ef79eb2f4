import SocialMigration.Text.Basic

/-!
# Text without a byte form

An encoding may lack some code points. The report of a text with such code points tells where the
first of them stand together.
-/

namespace SocialMigration

namespace CodePoint

/-- Whether a code point is half of a surrogate pair. -/
def isSurrogate (c : CodePoint) : Bool :=
  c.isHighSurrogate || c.isLowSurrogate

/-- A code point as reports of text that cannot be encoded show it. -/
def shownEscape (c : CodePoint) : Text :=
  if c.val < 0x100 then "\\x" ++ Text.hexadecimal 2 c.val
  else if c.val < 0x10000 then "\\u" ++ Text.hexadecimal 4 c.val
  else "\\U" ++ Text.hexadecimal 8 c.val

end CodePoint

namespace Text

/-- The first code points in a row that an encoding lacks, and the position of the first of them. -/
def firstRun? (lacks : CodePoint → Bool) (text : Text) : Option (Text × Nat) :=
  match text.dropWhile (!lacks ·) with
  | [] => none
  | left => some (left.takeWhile lacks, text.length - left.length)

/-- Which characters of a text cannot be encoded. A single one is shown, several are located. -/
def unencodablePlace (run : Text) (position : Nat) : Text :=
  match run with
  | [c] => "character '" ++ c.shownEscape ++ "' in position " ++ Text.ofNat position
  | several => "characters in position " ++ Text.ofNat position ++ "-" ++
      Text.ofNat (position + several.length - 1)

/-- The report of characters that an encoding lacks. -/
def unencodableReport (encoding reason run : Text) (position : Nat) : Text :=
  "'" ++ encoding ++ "' codec can't encode " ++ unencodablePlace run position ++ ": " ++ reason

/-- Why UTF-8 has no bytes for a text, if that is so: it has none for halves of surrogate pairs. -/
def unencodable? (text : Text) : Option Text :=
  (text.firstRun? CodePoint.isSurrogate).map fun (run, position) =>
    unencodableReport "utf-8" "surrogates not allowed" run position

end Text

end SocialMigration
