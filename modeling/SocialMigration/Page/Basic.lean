import SocialMigration.Journal
import SocialMigration.Progression

/-!
# Pages

A collection is read in pages, each named by the index of its first record and the number of
records it may hold. The pages of a collection start at the multiples of the page size below the
total, and the last one is cut at the total.
-/

namespace SocialMigration

/-- A page of a collection. -/
structure Page where
  first : Nat
  limit : Nat
  deriving DecidableEq, Repr

/-- How many records a page holds and how many pages may be in flight; neither is zero. -/
structure PageLimits where
  size : Nat
  inFlight : Nat
  size_pos : 0 < size
  inFlight_pos : 0 < inFlight

/-- The first indices of the pages of a collection. -/
def pageOffsets (total size : Int) : List Int :=
  Progression.offsets 0 total size

/-- What stands in the way of listing offsets as a failure. -/
def failureOfObstacle : Progression.Obstacle → Failure
  | .zeroStep => .argument .zeroStep
  | .uncountable => .range .progressionTooLong
  | .noRoom => .noRoom

/-- The offsets from a start towards a limit, if nothing stands in the way of listing them. -/
def listedOffsets [Platform] (start limit step : Int) : Except Failure (List Int) :=
  match Progression.obstacle? start limit step with
  | some obstacle => .error (failureOfObstacle obstacle)
  | none => .ok (Progression.offsets start limit step)

/-- The limits that two settings fix, the page size checked first. -/
def PageLimits.ofSettings (size inFlight : Int) : Except Failure PageLimits :=
  if size_pos : 0 < size then
    if inFlight_pos : 0 < inFlight then
      .ok ⟨size.toNat, inFlight.toNat, by omega, by omega⟩
    else .error (.argument (.notPositive "max_concurrency" inFlight))
  else .error (.argument (.notPositive "page_size" size))

namespace Page

/-- The page that starts at an offset of a collection. -/
def ofFirst (total size : Nat) (first : Nat) : Page :=
  ⟨first, min size (total - first)⟩

/-- The pages of a collection. -/
def all (total size : Nat) : List Page :=
  (pageOffsets total size).map fun first => ofFirst total size first.toNat

/-- The arguments with which a page is asked for. -/
def arguments (page : Page) : Json :=
  .obj [("from_index", .nat page.first), ("limit", .nat page.limit)]

/-- The query for a page. -/
def query (account method : Text) (page : Page) : Query :=
  ⟨account, method, some page.arguments⟩

end Page

end SocialMigration
