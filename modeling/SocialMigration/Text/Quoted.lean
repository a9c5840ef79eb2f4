import SocialMigration.Text.Printable

/-!
# Quoted text

How messages show a text between quotes. Single quotes are used unless the text holds one and no
double quote. A backslash, the quote in use and the common control characters get short escapes;
every other code point that is not printable gets a hexadecimal escape as wide as it needs.
-/

namespace SocialMigration

namespace CodePoint

/-- The shown form of one code point between quotes of the given kind. -/
def quotedIn (quote c : CodePoint) : Text :=
  if c == quote || c == 0x5C then [0x5C, c]
  else if c == 0x0A then [0x5C, 0x6E]
  else if c == 0x0D then [0x5C, 0x72]
  else if c == 0x09 then [0x5C, 0x74]
  else if c.isPrintable then [c]
  else if c.val < 0x100 then [0x5C, 0x78] ++ Text.hexadecimal 2 c.val
  else if c.val < 0x10000 then [0x5C, 0x75] ++ Text.hexadecimal 4 c.val
  else [0x5C, 0x55] ++ Text.hexadecimal 8 c.val

end CodePoint

namespace Text

/-- The quote that encloses a shown text: double only if the text holds a single quote and no
double one. -/
def quoteFor (text : Text) : CodePoint :=
  if text.contains 0x27 && !text.contains 0x22 then 0x22 else 0x27

/-- A text as messages show it, between quotes. -/
def quoted (text : Text) : Text :=
  let quote := text.quoteFor
  [quote] ++ text.flatMap (CodePoint.quotedIn quote) ++ [quote]

end Text

end SocialMigration
