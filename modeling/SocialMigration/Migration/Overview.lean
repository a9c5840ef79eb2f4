import SocialMigration.Migration.Results

/-!
# The overview of results

What the operator is told in the end, from the report of a run as a JSON value. Fields that are
missing have a standard; a part that should be an object and is something else ends the overview.
-/

namespace SocialMigration

namespace Migration

variable [Platform] {m : Type → Type} [Monad m]

/-- A field of what has to be an object. -/
def fieldIn (value : Json) (key : Text) : Run m (Option Json) :=
  match value with
  | .obj fields => pure (fields.lookup key)
  | other => Run.fail (.fieldless other.kindName)

/-- A field of what has to be an object, with a standard for a missing one. -/
def fieldOr (value : Json) (key : Text) (standard : Json) : Run m Json := do
  return (← fieldIn value key).getD standard

/-- Prints what a run counted, unless nothing was counted. -/
def printCounts (counts : Json) : Run m Unit := do
  if counts.isVoid then return
  Run.print ("Nodes: " ++ (← fieldOr counts "nodes_fetched" (.int 0)).shown)
  Run.print ("Accounts: " ++ (← fieldOr counts "accounts_fetched" (.int 0)).shown)
  Run.print
    ("Total balance: " ++ (← fieldOr counts "total_balance_near" "N/A").shown ++ " NEAR")

/-- Prints how far a collection was committed, if that is known. -/
def printProgress (progress : Json) (key label : Text) : Run m Unit := do
  match ← fieldOr progress key .null with
  | .null => pure ()
  | count => Run.print (label ++ ": " ++ count.shown)

/-- Prints a field under a label, unless it says nothing. -/
def printUnlessVoid (report : Json) (key label : Text) : Run m Unit := do
  let value ← fieldOr report key .null
  if !value.isVoid then Run.print (label ++ ": " ++ value.shown)

/-- Prints the overview of a report. -/
def printOverview (report : Json) : Run m Unit := do
  Run.printAll [[], rule]
  let success := !(← fieldOr report "success" .null).isVoid
  Run.print (if success then "MIGRATION COMPLETE" else "MIGRATION FAILED")
  Run.print rule
  Run.print (if success then "Status: SUCCESS" else "Status: FAILED")
  Run.print ("State: " ++ (← fieldOr report "state" "N/A").shown)
  printCounts (← fieldOr report "summary" (.obj []))
  let progress ← fieldOr report "progress" (.obj [])
  printProgress progress "nodes_committed" "Nodes committed"
  printProgress progress "accounts_committed" "Accounts committed"
  printUnlessVoid report "error" "Error"
  printUnlessVoid report "resume_hint" "Re-run with"

end Migration

end SocialMigration
