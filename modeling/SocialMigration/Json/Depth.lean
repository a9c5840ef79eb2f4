import SocialMigration.Json.Basic

/-!
# The depth of values

Values stand in each other, and whoever goes through them needs a stack as deep as they are. Where
the stack ends, or where an integer has too many digits to be put into text, going through a value
stops at the first part that is at fault.
-/

namespace SocialMigration

namespace Json

/-- The greatest number of digits of an integer in text. -/
def digitLimit : Nat := 4300

/-- Why a value is not put into text: its parts stand too deep in each other, or an integer has too
many digits. -/
inductive Flaw where
  | tooDeep
  | tooManyDigits
  deriving DecidableEq, Repr

/-- The flaw of a value without parts, with room for so many values in each other, of which this one
takes `leaf`. -/
def leafFlaw? (leaf room : Nat) (value : Json) : Option Flaw :=
  if room < leaf then some .tooDeep
  else
    match value with
    | int value =>
      if digitLimit < (Numeral.digits 10 value.natAbs).length then some .tooManyDigits else none
    | _ => none

mutual

/-- The first flaw of a value, if it has one. There is room for so many values in each other; an
array or an object takes one of them and a value without parts takes `leaf`. -/
def flaw? (leaf room : Nat) : Json → Option Flaw
  | arr items => if room = 0 then some .tooDeep else itemsFlaw? leaf (room - 1) items
  | obj fields => if room = 0 then some .tooDeep else fieldsFlaw? leaf (room - 1) fields
  | value => leafFlaw? leaf room value

/-- The first flaw among items. -/
def itemsFlaw? (leaf room : Nat) : List Json → Option Flaw
  | [] => none
  | item :: items => (flaw? leaf room item).or (itemsFlaw? leaf room items)

/-- The first flaw among the values of fields. -/
def fieldsFlaw? (leaf room : Nat) : List (Text × Json) → Option Flaw
  | [] => none
  | (_, value) :: fields => (flaw? leaf room value).or (fieldsFlaw? leaf room fields)

end

end Json

end SocialMigration
