import SocialMigration.Session

/-!
# Preconditions

Before anything is read, the source has to be read-only, so that it cannot change meanwhile, and
the destination still in genesis, so that it is not written twice. The destination is asked only
if the source is as it should be.
-/

namespace SocialMigration

namespace Precondition

/-- The query for the status of an account. -/
def statusQuery (account : Text) : Query :=
  ⟨account, "get_status", none⟩

/-- The line that is printed for the status of an account. -/
def statusLine (account : Text) (answer : Json) : Text :=
  "  Status of " ++ account ++ ": " ++ answer.shown

variable [Platform] {m : Type → Type} [Monad m]

/-- Requires an account to report a status. The label names the account in a failure, which quotes
any other answer. -/
def require (network : Network m) (verbose : Bool) (account : Text) (expected : Status)
    (label : Text) : Run m Status := do
  let answer ← Run.ask network (statusQuery account)
  if Status.ofJson? answer == some expected then
    Run.printIf verbose (statusLine account answer)
    return expected
  else
    Run.requireWords .status answer
    Run.printIf verbose (statusLine account answer)
    Run.fail (.precondition label account expected answer)

/-- Requires a read-only source, then a destination in genesis. -/
def check (network : Network m) (verbose : Bool) (source destination : Text) : Run m Unit := do
  discard <| require network verbose source .readOnly "source"
  discard <| require network verbose destination .genesis "destination"

end Precondition

end SocialMigration
