import SocialMigration.Proofs.Migration.Writing
import SocialMigration.Proofs.Run.Alike

/-!
# The steps side by side

The steps of a migration do not tell worlds apart in which the network answers and acts the same.
This is shown step by step, as the steps are put together. How the pages of a collection are fetched
is left open, because two migrations may go different ways there and still end up with the same
records.
-/

namespace SocialMigration

variable [Platform] {World : Type} {likeness : Likeness World} {network : Network (StateM World)}

namespace Precondition

theorem require_steady [Platform.PrintsAll] (verbose : Bool) (account : Text)
    (expected : Status) (label : Text)
    (answers : likeness.Answers network (statusQuery account)) :
    likeness.Steady (require network verbose account expected label) := by
  apply (Likeness.Parts.ask answers).bind
  intro answer
  split
  · exact (Likeness.Parts.printIf _ _ _ _).bind fun _ => .pure _
  · apply (Likeness.Parts.requireWords _ _).bind
    intro _
    exact (Likeness.Parts.printIf _ _ _ _).bind fun _ => .ofExcept (.error _)

end Precondition

namespace Migration

open Likeness (Parts)
open Precondition (statusQuery)

variable {config : Config}

theorem refuseCount_steady (account method : Text) (answer : Json) :
    likeness.Steady (refuseCount account method answer : Run (StateM World) Nat) :=
  (Parts.requireWords _ _).bind fun _ => .ofExcept (.error _)

theorem reportedCount_steady {method : Text}
    (answers : likeness.Answers network (countQuery config method)) :
    likeness.Steady (reportedCount network config.source method) := by
  apply (Parts.ask answers).bind
  intro answer
  cases answer with
  | int value =>
      simp only
      split
      · exact .pure _
      · exact refuseCount_steady _ _ _
  | _ => exact refuseCount_steady _ _ _

/-- A count that has been reported is an answer of the network. -/
theorem reportedCount_answers (method : Text) (session : Session) (world : World) :
    Run.Ends (reportedCount network config.source method) session world
      (fun count _ _ => network.Answers (countQuery config method) (.nat count))
      (fun _ _ _ => True) :=
  (reportedCount_ends method).mono (fun _ _ _ ended => ended.1) (fun _ _ _ _ => trivial)

variable [Platform.PrintsAll]

theorem advance_steady (config : Config) (stage : Stage) :
    likeness.Steady (advance config stage) := by
  apply Parts.bind
  · exact .update fun _ _ sessions => { sessions with stage := rfl }
  intro _
  exact .printIf _ _ _ _

theorem checkPreconditions_steady (source : likeness.Answers network (statusQuery config.source))
    (destination : likeness.Answers network (statusQuery config.destination)) :
    likeness.Steady (checkPreconditions network config) := by
  apply (Parts.printAll _ _).bind
  intro _
  apply ((Precondition.require_steady _ _ _ _ source).discard.bind fun _ =>
    (Precondition.require_steady _ _ _ _ destination).discard).bind
  intro _
  apply (Parts.print _ _).bind
  intro _
  apply (Parts.print _ _).bind
  intro _
  exact advance_steady config .preconditionsOk

section Collections

variable {delivery delivery' : Delivery} {limits limits' : PageLimits}

theorem fetchNodes_parts (counts : likeness.Answers network (countQuery config "get_node_count"))
    (fetches : ∀ count : Nat,
      network.Answers (countQuery config "get_node_count") (.nat count) →
      likeness.Parts (Page.fetchAll (pageSource network config "get_nodes") limits delivery count)
        (Page.fetchAll (pageSource network config "get_nodes") limits' delivery' count)) :
    likeness.Parts (fetchNodes network delivery config limits)
      (fetchNodes network delivery' config limits') := by
  apply (Parts.printAll _ _).bind
  intro _
  apply (reportedCount_steady counts).bind_of_ends (reportedCount_answers _)
  intro count counted
  apply (fetches count counted).bind
  intro nodes
  apply Parts.bind
  · exact .update fun _ _ sessions => { sessions with nodes := rfl }
  intro _
  apply (Parts.print _ _).bind
  intro _
  apply (advance_steady config .nodesFetched).bind
  intro _
  exact .pure count

theorem fetchAccounts_parts
    (counts : likeness.Answers network (countQuery config "get_account_count"))
    (fetches : ∀ count : Nat,
      network.Answers (countQuery config "get_account_count") (.nat count) →
      likeness.Parts
        (Page.fetchAll (pageSource network config "get_accounts") limits delivery count)
        (Page.fetchAll (pageSource network config "get_accounts") limits' delivery' count)) :
    likeness.Parts (fetchAccounts network delivery config limits)
      (fetchAccounts network delivery' config limits') := by
  apply (Parts.printAll _ _).bind
  intro _
  apply (reportedCount_steady counts).bind_of_ends (reportedCount_answers _)
  intro count counted
  apply (fetches count counted).bind
  intro accounts
  apply Parts.bind
  · exact .update fun _ _ sessions => { sessions with accounts := rfl }
  intro _
  apply (Parts.print _ _).bind
  intro _
  apply (advance_steady config .accountsFetched).bind
  intro _
  exact .pure count

end Collections

theorem report_steady (config : Config) (nodeCount accountCount : Nat) :
    likeness.Steady (report config nodeCount accountCount) := by
  apply (Parts.printAll _ _).bind
  intro _
  apply Parts.session
  intro session session' sessions
  rw [sessions.nodes, sessions.accounts]
  apply (Parts.ofExcept _).bind
  intro total
  apply (Parts.print _ _).bind
  intro _
  apply (Parts.print _ _).bind
  intro _
  apply (Parts.ofExcept _).bind
  intro totalNear
  apply (Parts.print _ _).bind
  intro _
  apply Parts.bind
  · exact .update fun _ _ sessions => { sessions with summary := rfl }
  intro _
  exact advance_steady config .reported

/-- Two migrations that differ in how they fetch pages read alike if their fetches are alike. -/
theorem readAll_parts {limits limits' : PageLimits} {size inFlight : Int}
    {schedule schedule' : Schedule}
    (fixed : PageLimits.ofSettings config.pageSize config.concurrency = .ok limits)
    (fixed' : PageLimits.ofSettings size inFlight = .ok limits')
    (plain : ∀ account method, likeness.Answers network ⟨account, method, none⟩)
    (nodes : ∀ count : Nat, network.Answers (countQuery config "get_node_count") (.nat count) →
      likeness.Parts
        (Page.fetchAll (pageSource network config "get_nodes") limits schedule.nodes count)
        (Page.fetchAll (pageSource network config "get_nodes") limits' schedule'.nodes count))
    (accounts : ∀ count : Nat,
      network.Answers (countQuery config "get_account_count") (.nat count) →
      likeness.Parts
        (Page.fetchAll (pageSource network config "get_accounts") limits schedule.accounts count)
        (Page.fetchAll (pageSource network config "get_accounts") limits' schedule'.accounts
          count)) :
    likeness.Parts (readAll network schedule config)
      (readAll network schedule' { config with pageSize := size, concurrency := inFlight }) := by
  simp only [readAll, fixed, fixed', Run.ofExcept, pure_bind]
  apply (checkPreconditions_steady (plain _ _) (plain _ _)).bind
  intro _
  apply (fetchNodes_parts (plain _ _) nodes).bind
  intro nodeCount
  apply (fetchAccounts_parts (plain _ _) accounts).bind
  intro accountCount
  apply (report_steady config nodeCount accountCount).bind
  intro _
  exact .pure nodeCount

/-! ## Writing -/

section Batches

variable {limits : BatchLimits} {target : Batch.Target}
  (accepts : ∀ call, likeness.Accepts network call)
include accepts

end Batches

end Migration

end SocialMigration
