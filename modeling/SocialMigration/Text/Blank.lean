import SocialMigration.Text.Basic

/-!
# White space

The code points that count as white space when texts are trimmed, and trimming itself. The
zero-width space and the byte order mark do not count.
-/

namespace SocialMigration

namespace CodePoint

/-- Maximal intervals of white space. -/
def blankRanges : List (Nat × Nat) :=
  [(0x9, 0xD), (0x1C, 0x20), (0x85, 0x85), (0xA0, 0xA0), (0x1680, 0x1680), (0x2000, 0x200A),
   (0x2028, 0x2029), (0x202F, 0x202F), (0x205F, 0x205F), (0x3000, 0x3000)]

/-- Whether a code point is white space. -/
def isBlank (c : CodePoint) : Bool :=
  c.within blankRanges

end CodePoint

namespace Text

/-- A text without the white space at its start. -/
def trimStart (text : Text) : Text :=
  text.dropWhile CodePoint.isBlank

/-- A text without the white space at its end. -/
def trimEnd (text : Text) : Text :=
  (text.reverse.dropWhile CodePoint.isBlank).reverse

/-- A text without the white space at both ends. -/
def trim (text : Text) : Text :=
  trimEnd (trimStart text)

end Text

end SocialMigration
