import SocialMigration.Json.Basic

/-!
# Contract status

The lifecycle status that a contract reports. The source of a migration has to be read-only, the
destination still in genesis. Only the three exact words are statuses; any other answer is kept as
it is.
-/

namespace SocialMigration

/-- The lifecycle status of a contract. -/
inductive Status where
  | genesis
  | live
  | readOnly
  deriving DecidableEq, Repr

namespace Status

/-- The word with which a contract reports a status. -/
def word : Status → Text
  | genesis => "Genesis"
  | live => "Live"
  | readOnly => "ReadOnly"

/-- How messages call the state that a status stands for. -/
def stateName : Status → Text
  | genesis => "genesis"
  | live => "live"
  | readOnly => "read-only"

/-- The status whose word a text is. -/
def ofWord? (text : Text) : Option Status :=
  [genesis, live, readOnly].find? fun status => status.word == text

/-- The status that an answer reports, if it is one of the words. -/
def ofJson? : Json → Option Status
  | .str text => ofWord? text
  | _ => none

end Status

end SocialMigration
