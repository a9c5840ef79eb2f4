import SocialMigration.Json.Basic
import SocialMigration.Text.Quoted

/-!
# Values in messages

How messages show a value. Between brackets and in quotations a string is quoted; shown on its own
it is plain. The absent value, truth values and doubles have their own words here, which differ
from those of JSON.
-/

namespace SocialMigration

namespace Json

/-- The words for the doubles that are not finite in messages. -/
def shownSpelling : Binary64.Spelling := ⟨"nan", "inf"⟩

mutual

/-- A value as messages quote it. -/
def quoted : Json → Text
  | null => "None"
  | bool value => if value then "True" else "False"
  | int value => Text.ofInt value
  | float value => value.toText shownSpelling
  | str text => Text.quoted text
  | arr [] => "[]"
  | arr (item :: items) => "[" ++ quoted item ++ quotedItems items ++ "]"
  | obj [] => "\x7b\x7d"
  | obj ((key, value) :: fields) =>
    "\x7b" ++ Text.quoted key ++ ": " ++ quoted value ++ quotedFields fields ++ "\x7d"

/-- The items after the first, each with its separator. -/
def quotedItems : List Json → Text
  | [] => []
  | item :: items => ", " ++ quoted item ++ quotedItems items

/-- The fields after the first, each with its separator. -/
def quotedFields : List (Text × Json) → Text
  | [] => []
  | (key, value) :: fields =>
    ", " ++ Text.quoted key ++ ": " ++ quoted value ++ quotedFields fields

end

/-- A value as messages show it on its own: a string stands for itself. -/
def shown : Json → Text
  | str text => text
  | value => value.quoted

end Json

end SocialMigration
