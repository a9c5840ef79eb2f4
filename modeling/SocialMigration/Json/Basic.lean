import SocialMigration.Binary64

/-!
# JSON values

The values that contracts answer and that calls carry. Integers are exact and of any size, doubles
are kept apart from them, strings are texts and may hold lone surrogates, and the fields of an
object keep their order. In an object built here a key occurs once: setting it again changes its
value and leaves its place.
-/

namespace SocialMigration

/-- A JSON value. -/
inductive Json where
  | null
  | bool (value : Bool)
  | int (value : Int)
  | float (value : Binary64)
  | str (text : Text)
  | arr (items : List Json)
  | obj (fields : List (Text × Json))
  deriving Repr, Inhabited

namespace Json

instance : Coe String Json := ⟨fun s => .str (Text.ofString s)⟩

/-- The kind of a value, as messages name it. -/
def kindName : Json → Text
  | null => "NoneType"
  | bool _ => "bool"
  | int _ => "int"
  | float _ => "float"
  | str _ => "str"
  | arr _ => "list"
  | obj _ => "dict"

/-- Whether a value says nothing: null, false, zero, or an empty text, array or object. -/
def isVoid : Json → Bool
  | null => true
  | bool value => !value
  | int value => value == 0
  | float value => value.isZero
  | str text => text.isEmpty
  | arr items => items.isEmpty
  | obj fields => fields.isEmpty

/-- The fields of an object with one key set: in its place if it occurs, otherwise at the end. -/
def setField (key : Text) (value : Json) : List (Text × Json) → List (Text × Json)
  | [] => [(key, value)]
  | (other, held) :: rest =>
    if other == key then (key, value) :: rest else (other, held) :: setField key value rest

/-- The fields that a sequence of settings leaves, from the first to the last. -/
def collectFields (settings : List (Text × Json)) : List (Text × Json) :=
  settings.foldl (fun fields (key, value) => setField key value fields) []

/-- The object that a sequence of settings builds. -/
def ofSettings (settings : List (Text × Json)) : Json :=
  obj (collectFields settings)

/-- The value of a key of an object. -/
def field? (key : Text) : Json → Option Json
  | obj fields => fields.lookup key
  | _ => none

/-- The value of a key of an object, and null if there is none. -/
def fieldOrNull (key : Text) (value : Json) : Json :=
  (value.field? key).getD null

/-- A number of records as a JSON integer. -/
def nat (n : Nat) : Json := int n

end Json

end SocialMigration
