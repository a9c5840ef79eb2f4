import SocialMigration.Proofs.Migration.Alike
import SocialMigration.Proofs.Migration.Saving
import SocialMigration.Proofs.Page.Alike

/-!
# What is written does not depend on the pages

Two migrations that differ in the size of pages, in how many are in flight and in the order in which
they are answered read different pages, but the same records, if the pages are slices of two fixed
collections. From there on they go in step: they make the same calls and report the same results.

The reported sizes need not be those of the collections. They have to be such that the list of pages
can be made with both page sizes, or with neither and for the same reason.
-/

namespace SocialMigration

namespace Migration

open Likeness (Parts)

variable {World : Type} {host : Host (StateM World)} {config : Config} {source : Text}
  {nodes accounts : List Json} {alike : World → World → Prop}

/-- A host over which migrations can be compared that read their pages differently. In worlds that
are alike it answers the queries for statuses and sizes the same, and does the same with every call.
Each page is answered with its slice of a fixed collection, and a page that only one of the
migrations asks for does not make worlds unlike. -/
structure Host.ServesAlike (host : Host (StateM World)) (source : Text)
    (nodes accounts : List Json) (alike : World → World → Prop) : Prop where
  answers : ∀ account method world world', alike world world' →
    ((host.network.ask ⟨account, method, none⟩).run world).1.outcome =
        ((host.network.ask ⟨account, method, none⟩).run world').1.outcome ∧
      alike ((host.network.ask ⟨account, method, none⟩).run world).2
        ((host.network.ask ⟨account, method, none⟩).run world').2
  nodes : ∀ (page : Page) world,
    ((host.network.ask (page.query source "get_nodes")).run world).1.outcome =
      .ok (.arr (page.slice nodes))
  accounts : ∀ (page : Page) world,
    ((host.network.ask (page.query source "get_accounts")).run world).1.outcome =
      .ok (.arr (page.slice accounts))
  paged : ∀ (page : Page) method world world', alike world world' →
    alike ((host.network.ask (page.query source method)).run world).2 world' ∧
      alike world ((host.network.ask (page.query source method)).run world').2
  accepts : ∀ call world world', alike world world' →
    ((host.network.send call).run world).1.outcome =
        ((host.network.send call).run world').1.outcome ∧
      alike ((host.network.send call).run world).2 ((host.network.send call).run world').2
  looked : ∀ world world', alike world world' →
    alike (host.now.run world).2 (host.now.run world').2

/-- The likeness of two migrations that read their pages differently: calls are seen, with what
became of them, and nothing else is. -/
def pageLikeness (alike : World → World → Prop) : Likeness World where
  Seen := Call × Except Failure Unit
  view := Event.sent?
  hidden _ := rfl
  worlds := alike

section

variable [Platform] [Platform.PrintsAll]

/-- The pages of a collection, whatever their size and order, are alike. -/
theorem Host.ServesAlike.fetches {method : Text} {held : List Json} {limits limits' : PageLimits}
    {count : Nat} (serves : host.ServesAlike config.source nodes accounts alike)
    (slices : ∀ (page : Page) world,
      ((host.network.ask (page.query config.source method)).run world).1.outcome =
        .ok (.arr (page.slice held)))
    (listed : Progression.obstacle? 0 count limits.size =
      Progression.obstacle? 0 count limits'.size) (delivery delivery' : Delivery) :
    (pageLikeness alike).Parts
      (Page.fetchAll (pageSource host.network config method) limits delivery count)
      (Page.fetchAll (pageSource host.network config method) limits' delivery' count) := by
  apply Page.fetchAll_parts delivery delivery' slices
  case left =>
    intro page world world' worlds
    exact (serves.paged page method world world' worlds).1
  case right =>
    intro page world world' worlds
    exact (serves.paged page method world world' worlds).2
  case unseen =>
    intro event reads
    exact reads.sent?
  case listed => exact listed

end

attribute [local instance] Platform.accepting Platform.printsAll_accepting

end Migration

end SocialMigration
