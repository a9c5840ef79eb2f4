import SocialMigration.Page.Basic
import SocialMigration.Proofs.Progression

/-!
# Pages as slices

The pages of a collection of a known size are different from each other, and a source that answers
each with the slice it asks for hands out every record up to that size, in order and once.
-/

namespace SocialMigration

namespace Page

variable {total size : Nat}

theorem all_eq_map (positive : 0 < size) (total : Nat) :
    all total size = (Progression.below 0 size total).map (ofFirst total size) := by
  rw [← Progression.offsets_eq_below positive, List.map_map]
  rfl

theorem all_nodup (positive : 0 < size) (total : Nat) : (all total size).Nodup := by
  rw [all_eq_map positive]
  refine List.Pairwise.map _ ?_ (Progression.below_nodup 0 size total)
  intro first second different same
  exact different (congrArg Page.first same)

/-- The slice of a collection that a page asks for. -/
def slice (records : List Json) (page : Page) : List Json :=
  (records.drop page.first).take page.limit

/-- The slices of all pages are the collection up to its reported size. -/
theorem flatMap_slice_all (positive : 0 < size) (records : List Json) (total : Nat) :
    (all total size).flatMap (slice records) = records.take total := by
  have cut : ∀ first, slice records (ofFirst total size first) =
      ((records.take total).drop first).take size := by
    intro first
    rw [slice, ofFirst, List.drop_take, List.take_take]
  rw [all_eq_map positive, List.flatMap_map]
  simp only [cut]
  exact Progression.flatMap_slices (records.take total) positive 0 (by simp)

end Page

end SocialMigration
