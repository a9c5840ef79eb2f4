import SocialMigration.Page.Basic
import SocialMigration.Session

/-!
# Fetching pages

All pages of a collection, joined in the order of the collection. Pages do not depend on each
other, so several are in flight at once, started in ascending order and never more than the limit;
they may be answered in any order. The first answer that fails ends the fetch.

A flight is the state between two answers. An answer frees a slot also if it fails, and the page
that has waited for it is asked for before the failure takes effect; until then, more answers may
come and free their slots as well. Answers that come at once leave no page waiting for a slot: every
page is asked for before a failure among them takes effect.
-/

namespace SocialMigration

/-- In which order the pages in flight are answered: each at once when it is asked for, or one by
one, those whose first index is listed before the others. Late answers are those that come after one
that fails and before the failure takes effect. -/
inductive Delivery where
  | atOnce
  | inOrder (order : List Nat) (late : Nat := 0)
  deriving Repr

/-- The pages of a fetch: those not asked for yet, those in flight, both in ascending order, and
the records of those answered, the latest first. -/
structure Flight where
  waiting : List Page
  inFlight : List Page
  arrived : List (Page × List Json)

namespace Flight

/-- The flight before the first page is asked for. -/
def ofPages (pages : List Page) : Flight := ⟨pages, [], []⟩

/-- The pages for which a slot is free. -/
def starting (limit : Nat) (flight : Flight) : List Page :=
  flight.waiting.take (limit - flight.inFlight.length)

/-- The flight after the pages for which a slot is free are asked for. -/
def launch (limit : Nat) (flight : Flight) : Flight :=
  { flight with
    waiting := flight.waiting.drop (limit - flight.inFlight.length)
    inFlight := flight.inFlight ++ flight.starting limit }

/-- The page in flight that is answered next: the one listed earliest, otherwise the lowest. -/
def next? (order : List Nat) (flight : Flight) : Option Page :=
  (order.findSome? fun first => flight.inFlight.find? fun page => page.first == first).or
    flight.inFlight.head?

/-- The flight after the slot of a page has become free. -/
def release (page : Page) (flight : Flight) : Flight :=
  { flight with inFlight := flight.inFlight.erase page }

/-- The flight after a page has arrived. -/
def land (page : Page) (records : List Json) (flight : Flight) : Flight :=
  { flight.release page with arrived := (page, records) :: flight.arrived }

/-- The records of the pages that have arrived, in the order of the collection. -/
def joined (pages : List Page) (flight : Flight) : List Json :=
  pages.flatMap fun page => (flight.arrived.lookup page).getD []

end Flight

namespace Page

variable [Platform] {m : Type → Type} [Monad m]

/-- A fetch: where the pages come from, and whether their arrival is printed. -/
structure Source (m : Type → Type) where
  network : Network m
  account : Text
  method : Text
  verbose : Bool

/-- The records of an answer to a page query, which has to be a list. -/
def records (source : Source m) (page : Page) : Json → Except Failure (List Json)
  | .arr items => .ok items
  | other =>
    .error (.query source.account source.method (.pageNotAList other.kindName page.first))

/-- The line that is printed when a page arrives. -/
def arrivalLine (method : Text) (page : Page) (count : Nat) : Text :=
  "    " ++ method ++ " from " ++ Text.ofNat page.first ++ ": " ++ Text.ofNat count ++ " records"

/-- Asks for a page. -/
def request (source : Source m) (page : Page) : Run m Unit :=
  Run.record (.asked (page.query source.account source.method))

/-- Waits for the records of a page that has been asked for. -/
def receive (source : Source m) (page : Page) : Run m (List Json) := do
  let answer ← Run.await source.network (page.query source.account source.method)
  let items ← Run.ofExcept (page.records source answer)
  Run.printIf source.verbose (arrivalLine source.method page items.length)
  return items

/-- Asks for pages that are answered at once, and hands out what became of each. -/
def receiveEach (source : Source m) : List Page → Run m (List (Except Failure (List Json)))
  | [] => pure []
  | page :: pages => do
    let outcome ← Run.attempt (do page.request source; page.receive source)
    let outcomes ← receiveEach source pages
    return outcome :: outcomes

/-- The lists of all outcomes joined, or the first failure among them. -/
def joinOutcomes : List (Except Failure (List Json)) → Except Failure (List Json)
  | [] => .ok []
  | .error failure :: _ => .error failure
  | .ok items :: outcomes => (joinOutcomes outcomes).map (items ++ ·)

/-- Asks for the pages for which a slot is free. -/
def requestStarting (source : Source m) (limit : Nat) (flight : Flight) : Run m Unit :=
  (flight.starting limit).forM (request source)

/-- Carries a flight on after an answer that fails, for a number of late answers. Slots are taken as
before, but nothing arrives. -/
def drain (source : Source m) (limit : Nat) (order : List Nat) : (late : Nat) → Flight → Run m Unit
  | 0, flight => requestStarting source limit flight
  | late + 1, flight => do
    requestStarting source limit flight
    let launched := flight.launch limit
    match launched.next? order with
    | none => pure ()
    | some page =>
      discard <| Run.attempt (page.receive source)
      drain source limit order late (launched.release page)

/-- Carries a flight on for a number of answers, or until no page is left or an answer fails. -/
def fly (source : Source m) (limit : Nat) (order : List Nat) (late : Nat) :
    (answers : Nat) → Flight → Run m Flight
  | 0, flight => pure flight
  | answers + 1, flight => do
    requestStarting source limit flight
    let launched := flight.launch limit
    match launched.next? order with
    | none => pure launched
    | some page =>
      match ← Run.attempt (page.receive source) with
      | .ok items => fly source limit order late answers (launched.land page items)
      | .error failure =>
        drain source limit order late (launched.release page)
        Run.fail failure

/-- All records of a collection of a known size, in its order. -/
def fetch (source : Source m) (limits : PageLimits) (delivery : Delivery) (total : Nat) :
    Run m (List Json) :=
  let pages := all total limits.size
  match delivery with
  | .atOnce => do
    let outcomes ← receiveEach source pages
    Run.ofExcept (joinOutcomes outcomes)
  | .inOrder order late => do
    let flight ← fly source limits.inFlight order late pages.length (.ofPages pages)
    return flight.joined pages

/-- All records of a collection whose size has been reported. A size has to be natural, and nothing
may stand in the way of listing its pages. -/
def fetchAll (source : Source m) (limits : PageLimits) (delivery : Delivery) (total : Int) :
    Run m (List Json) :=
  if total < 0 then Run.fail (.argument (.negative "total_count" total))
  else
    match Progression.obstacle? 0 total limits.size with
    | some obstacle => Run.fail (failureOfObstacle obstacle)
    | none => fetch source limits delivery total.toNat

end Page

/-- The most queries in flight at any moment of a sequence of events, given how many are in flight
before it. -/
def peakFrom (inFlight : Nat) : List Event → Nat
  | [] => inFlight
  | .asked _ :: events => peakFrom (inFlight + 1) events
  | .answered .. :: events => max inFlight (peakFrom (inFlight - 1) events)
  | _ :: events => peakFrom inFlight events

end SocialMigration
