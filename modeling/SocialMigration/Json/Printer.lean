import SocialMigration.Json.Basic

/-!
# Writing JSON

The written form of a value, in printable ASCII: every other code point is escaped, those above
U+FFFF as a pair of surrogates. A layout says how the parts are separated. View-call arguments and
messages are spaced, call arguments are compact, and the saved report is indented.
-/

namespace SocialMigration

namespace Json

/-- How the parts of arrays and objects are set apart: the separators, and what starts a part at a
nesting depth. -/
structure Layout where
  comma : Text
  colon : Text
  opening : Nat → Text

namespace Layout

/-- One line, with a blank after each separator. -/
def spaced : Layout := ⟨", ", ": ", fun _ => []⟩

/-- One line without blanks. -/
def compact : Layout := ⟨",", ":", fun _ => []⟩

/-- A line for each part, two more blanks in front of it at each depth. -/
def indented : Layout := ⟨",", ": ", fun depth => 0x0A :: List.replicate (2 * depth) 0x20⟩

end Layout

/-- A four-digit escape of a number below 2^16. -/
def unicodeEscape (n : Nat) : Text :=
  [0x5C, 0x75] ++ Text.hexadecimal 4 n

/-- The written form of a code point in a string. -/
def escaped (c : CodePoint) : Text :=
  if c == 0x22 || c == 0x5C then [0x5C, c]
  else if c == 0x0A then [0x5C, 0x6E]
  else if c == 0x0D then [0x5C, 0x72]
  else if c == 0x09 then [0x5C, 0x74]
  else if c == 0x08 then [0x5C, 0x62]
  else if c == 0x0C then [0x5C, 0x66]
  else if 0x20 ≤ c.val && c.val < 0x7F then [c]
  else if c.val < 0x10000 then unicodeEscape c.val
  else
    let offset := c.val - 0x10000
    unicodeEscape (0xD800 + offset / 0x400) ++ unicodeEscape (0xDC00 + offset % 0x400)

/-- A text as a JSON string. -/
def writtenString (text : Text) : Text :=
  "\"" ++ text.flatMap escaped ++ "\""

/-- The words for the doubles that are not finite. -/
def floatSpelling : Binary64.Spelling := ⟨"NaN", "Infinity"⟩

mutual

/-- The written form of a value at a nesting depth. -/
def writtenAt (layout : Layout) (depth : Nat) : Json → Text
  | null => "null"
  | bool value => if value then "true" else "false"
  | int value => Text.ofInt value
  | float value => value.toText floatSpelling
  | str text => writtenString text
  | arr [] => "[]"
  | arr (item :: items) =>
    "[" ++ layout.opening (depth + 1) ++ writtenAt layout (depth + 1) item ++
      writtenItems layout (depth + 1) items ++ layout.opening depth ++ "]"
  | obj [] => "\x7b\x7d"
  | obj ((key, value) :: fields) =>
    "\x7b" ++ layout.opening (depth + 1) ++ writtenString key ++ layout.colon ++
      writtenAt layout (depth + 1) value ++ writtenFields layout (depth + 1) fields ++
      layout.opening depth ++ "\x7d"

/-- The written form of the items after the first, each with its separator. -/
def writtenItems (layout : Layout) (depth : Nat) : List Json → Text
  | [] => []
  | item :: items =>
    layout.comma ++ layout.opening depth ++ writtenAt layout depth item ++
      writtenItems layout depth items

/-- The written form of the fields after the first, each with its separator. -/
def writtenFields (layout : Layout) (depth : Nat) : List (Text × Json) → Text
  | [] => []
  | (key, value) :: fields =>
    layout.comma ++ layout.opening depth ++ writtenString key ++ layout.colon ++
      writtenAt layout depth value ++ writtenFields layout depth fields

end

/-- The written form of a value. -/
def written (layout : Layout) (value : Json) : Text :=
  writtenAt layout 0 value

/-- The written form of a value on one spaced line. -/
def toText (value : Json) : Text :=
  value.written .spaced

end Json

end SocialMigration
