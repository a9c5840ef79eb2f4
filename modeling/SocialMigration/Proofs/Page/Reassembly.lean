import SocialMigration.Proofs.Migration.Source
import SocialMigration.Proofs.Page.Fetch
import SocialMigration.Proofs.Page.Order

/-!
# Reassembly

If every page of a collection is answered with a list, a fetch succeeds, and its records are these
lists in the order of the pages: neither the order of the answers nor the number of pages in flight
shows in them. The only thing in the way are more pages than can be listed, and then none of them is
asked for.
-/

namespace SocialMigration

namespace Page

variable {World : Type} {source : Source (StateM World)} {session : Session} {world : World}
  {limits : PageLimits} {total : Nat} {assigned : Page → List Json}

/-- What is fetched of assigned pages is their records in the order of the pages. -/
theorem Fetched.joined {network : Network (StateM World)} {account method : Text}
    {pages : List Page} {arrivals : List (Page × List Json)} {trace : List Event}
    (assigns : network.Assigns account method pages assigned)
    (fetched : Fetched network account method pages arrivals trace) :
    arrivals.flatMap Prod.snd = pages.flatMap assigned := by
  have records : ∀ arrival ∈ arrivals, arrival.2 = assigned arrival.1 := by
    intro arrival member
    refine assigns.eq ?_ (fetched.truthful arrival member)
    exact fetched.complete ▸ List.mem_map_of_mem member
  calc arrivals.flatMap Prod.snd
    _ = arrivals.flatMap fun arrival => assigned arrival.1 := List.flatMap_congr records
    _ = (arrivals.map Prod.fst).flatMap assigned := (List.flatMap_map ..).symm
    _ = pages.flatMap assigned := by rw [fetched.complete]

/-- The queries for the pages of a collection: at every multiple of the page size below the total,
for a whole page or for what is left. -/
def queries (account method : Text) (total size : Nat) : List Query :=
  (Progression.below 0 size total).map fun first =>
    ⟨account, method,
      some (.obj [("from_index", .nat first), ("limit", .nat (min size (total - first)))])⟩

theorem map_query_all (account method : Text) (total : Nat) {size : Nat} (positive : 0 < size) :
    (all total size).map (query account method) = queries account method total size := by
  rw [all_eq_map positive, List.map_map]
  rfl

/-- The first indices of the pages of a collection are different. -/
theorem all_first_nodup (total : Nat) {size : Nat} (positive : 0 < size) :
    ((all total size).map first).Nodup := by
  rw [all_eq_map positive, List.map_map]
  exact (Progression.below_nodup 0 size total).map fun _ _ => id

theorem apart_ofPages (total : Nat) {size : Nat} (positive : 0 < size) :
    (Flight.ofPages (all total size)).Apart [] :=
  ⟨all_first_nodup total positive, by simp⟩

section

variable [Platform]

/-- Where nothing stands in the way of listing the pages, all of them are fetched. -/
theorem fetchAll_eq (listed : Progression.obstacle? 0 total limits.size = none)
    (delivery : Delivery) :
    fetchAll source limits delivery total = fetch source limits delivery total := by
  rw [fetchAll, if_neg (by omega), listed]
  rfl

/-- Where something stands in the way of listing the pages, none is asked for. -/
theorem fetchAll_of_obstacle {obstacle : Progression.Obstacle}
    (blocked : Progression.obstacle? 0 total limits.size = some obstacle) (delivery : Delivery) :
    fetchAll source limits delivery total = Run.fail (failureOfObstacle obstacle) := by
  rw [fetchAll, if_neg (by omega), blocked]

variable [Platform.PrintsAll]

/-- A fetch of assigned pages does not fail. -/
theorem fetch_returns (delivery : Delivery)
    (assigns : source.network.Assigns source.account source.method (all total limits.size)
      assigned) :
    Run.Ends (fetch source limits delivery total) session world
      (fun _ _ _ => True) (fun _ _ _ => False) := by
  apply (fetch_fixed delivery assigns.fixes).mono
  · exact fun _ _ _ _ => trivial
  · intro failure later _ ended
    rcases ended with ⟨good, page, rest, -, failAt, -⟩
    exact failAt.fails.not_isList ⟨assigned page, rfl⟩

end

attribute [local instance] Platform.accepting Platform.printsAll_accepting

end Page

end SocialMigration
