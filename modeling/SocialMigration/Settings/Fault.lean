import SocialMigration.Text.Quoted

/-!
# Setting faults

Why a migration cannot be configured: the network is none of the known ones, a number is not an
integer, or an assignment in the settings file cannot become part of the environment.
-/

namespace SocialMigration

namespace Settings

/-- What is wrong with a setting. -/
inductive Fault where
  | unknownNetwork (known : List Text) (name : Text)
  | notAnInteger (setting raw : Text)
  | illegalName
  | embeddedNull
  deriving DecidableEq, Repr

/-- The report of a fault. -/
def Fault.message : Fault → Text
  | unknownNetwork known name =>
    "NEAR_NETWORK must be one of " ++ Text.join ", " known ++ ", got " ++ name.quoted
  | notAnInteger setting raw => setting ++ " must be an integer, got " ++ raw.quoted
  | illegalName => "illegal environment variable name"
  | embeddedNull => "embedded null byte"

/-- Whether a fault lies in the value of a known setting. -/
def Fault.isConfiguration : Fault → Bool
  | unknownNetwork .. => true
  | notAnInteger .. => true
  | illegalName => false
  | embeddedNull => false

end Settings

end SocialMigration
