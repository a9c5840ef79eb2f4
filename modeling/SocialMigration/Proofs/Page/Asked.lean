import SocialMigration.Proofs.Page.Verdict
import SocialMigration.Proofs.Page.Slices

/-!
# Which pages are asked for

A fetch asks for its pages in the order of the collection, and for none twice, also if it fails: it
then stops anywhere among them. The pages themselves cut the indices below the total into intervals,
none of them empty and none longer than the page size.
-/

namespace SocialMigration

open scoped List

namespace Page

variable {World : Type} {source : Source (StateM World)} {session : Session} {world : World}
  {limit : Nat} {flight : Flight}

/-- A session has asked for some pages, in this order, after another session, and for nothing
else. -/
def Asks (account method : Text) (session : Session) (pages : List Page) (later : Session) : Prop :=
  ∃ trace, session.Logs trace later ∧
    trace.filterMap Event.query? = pages.map (query account method)

variable {account method : Text} {pages pages' : List Page} {later latest : Session}

theorem asks_nil {trace : List Event} (logs : session.Logs trace later)
    (silent : trace.filterMap Event.query? = []) : Asks account method session [] later :=
  ⟨trace, logs, silent⟩

theorem asks_asking (account method : Text) (session : Session) (pages : List Page) :
    Asks account method session pages (session.extend (asking account method pages)) :=
  ⟨_, logs_asking account method session pages, filterMap_query?_asking⟩

theorem Asks.append (front : Asks account method session pages later)
    (back : Asks account method later pages' latest) :
    Asks account method session (pages ++ pages') latest := by
  rcases front with ⟨trace, logs, asked⟩
  rcases back with ⟨trace', logs', asked'⟩
  exact ⟨_, logs.append logs', by rw [List.filterMap_append, asked, asked', List.map_append]⟩

/-- A drained flight has asked for the first of the pages that wait. -/
theorem Drained.asks (drained : Drained source limit flight session later) :
    ∃ pages, pages <+: flight.waiting ∧
      Asks source.account source.method session pages later := by
  rcases drained with ⟨answered, events, course, -, logs⟩
  rcases course.asked with ⟨pages, front, asked⟩
  exact ⟨pages, front, events, logs, asked⟩

section

variable [Platform] [Platform.PrintsAll]

/-- Nothing is asked while a page is received. -/
theorem receive_asks (page : Page) :
    Run.Ends (page.receive source) session world
      (fun _ later _ => Asks source.account source.method session [] later)
      (fun _ later _ => Asks source.account source.method session [] later) := by
  apply (receive_ends page).mono
  · intro items later _ ended
    exact asks_nil ended.2 rfl
  · intro failure later _ ended
    rcases ended with ⟨-, outcome, logs⟩
    exact asks_nil logs rfl

/-- A flight asks for the first of the pages that wait, whether or not it fails. -/
theorem fly_asks (order : List Nat) (late answers : Nat) (flight : Flight) :
    Run.Ends (fly source limit order late answers flight) session world
      (fun _ later _ => ∃ pages, pages <+: flight.waiting ∧
        Asks source.account source.method session pages later)
      (fun _ later _ => ∃ pages, pages <+: flight.waiting ∧
        Asks source.account source.method session pages later) := by
  induction answers generalizing flight session world with
  | zero => exact ⟨[], List.nil_prefix, asks_nil (.refl session) rfl⟩
  | succ answers ih =>
      have asked := asks_asking source.account source.method session (flight.starting limit)
      have waiting : flight.starting limit ++ (flight.launch limit).waiting = flight.waiting :=
        List.take_append_drop ..
      rw [ends_fly_succ]
      cases next : (flight.launch limit).next? order with
      | none => exact ⟨_, ⟨_, waiting⟩, asked⟩
      | some page =>
          have more {between : Session}
              (received : Asks source.account source.method
                (session.extend (asking source.account source.method (flight.starting limit))) []
                between) {later : Session}
              (ended : ∃ pages, pages <+: (flight.launch limit).waiting ∧
                Asks source.account source.method between pages later) :
              ∃ pages, pages <+: flight.waiting ∧
                Asks source.account source.method session pages later := by
            rcases ended with ⟨pages, front, asked'⟩
            refine ⟨_, ?_, asked.append (received.append asked')⟩
            rw [List.nil_append, ← waiting]
            exact (List.prefix_append_right_inj _).mpr front
          apply (receive_asks page).mono
          · intro items between _ received
            exact (ih ((flight.launch limit).land page items)).mono
              (fun _ _ _ => more received) fun _ _ _ => more received
          · intro failure between _ received
            exact (drain_ends order late _).mono (fun _ _ _ drained => more received drained.asks)
              fun _ _ _ => False.elim

/-- Pages that are answered at once are all asked for. -/
theorem receiveEach_asks (pages : List Page) :
    Run.Ends (receiveEach source pages) session world
      (fun _ later _ => Asks source.account source.method session pages later)
      (fun _ _ _ => False) := by
  induction pages generalizing session world with
  | nil => exact asks_nil (.refl session) rfl
  | cons page pages ih =>
      have asked := asks_asking source.account source.method session [page]
      simp only [receiveEach, request, Run.ends_bind, Run.ends_attempt, Run.ends_record]
      apply (receive_asks page).mono
      · intro items between _ received
        exact ih.mono (fun _ _ _ asked' => asked.append (received.append asked'))
          fun _ _ _ => id
      · intro failure between _ received
        exact ih.mono (fun _ _ _ asked' => asked.append (received.append asked'))
          fun _ _ _ => id

/-- A fetch that fails has asked for the first of its pages. -/
theorem fetchAll_asks (limits : PageLimits) (delivery : Delivery) (total : Nat) :
    Run.Ends (fetchAll source limits delivery total) session world
      (fun _ _ _ => True)
      (fun _ later _ => ∃ pages, pages <+: all total limits.size ∧
        Asks source.account source.method session pages later) := by
  rw [fetchAll, if_neg (by omega)]
  split
  · exact ⟨[], List.nil_prefix, asks_nil (.refl session) rfl⟩
  · rw [Int.toNat_natCast]
    cases delivery with
    | atOnce =>
        simp only [fetch, Run.ends_bind, Run.ends_ofExcept]
        refine (receiveEach_asks _).mono ?_ (fun _ _ _ => False.elim)
        intro outcomes later _ asked
        cases joinOutcomes outcomes with
        | ok records => trivial
        | error failure => exact ⟨_, List.prefix_rfl, asked⟩
    | inOrder order late =>
        simp only [fetch, Run.ends_bind, Run.ends_pure]
        exact (fly_asks order late _ _).mono (fun _ _ _ _ => trivial) fun _ _ _ => id

end

/-! ## Intervals -/

/-- Pages cut the indices below a total into intervals, none of them empty or longer than the page
size. -/
structure Partition (size total : Nat) (pages : List Page) : Prop where
  limits : ∀ page ∈ pages, 1 ≤ page.limit ∧ page.limit ≤ size
  joined : pages.flatMap (fun page => List.range' page.first page.limit) = List.range total

/-- The pages of a collection cut it into intervals. -/
theorem partition_all {size : Nat} (positive : 0 < size) (total : Nat) :
    Partition size total (all total size) where
  limits := by
    intro page member
    rw [all_eq_map positive] at member
    rcases List.mem_map.mp member with ⟨first, offset, rfl⟩
    have below := (Progression.mem_below.mp offset).2.2
    simp only [ofFirst]
    omega
  joined := by
    have interval : ∀ first, List.range' first (ofFirst total size first).limit =
        ((List.range total).drop first).take size := by
      intro first
      have cut : min size (total - first) = min (first + size) total - first := by omega
      rw [ofFirst, cut, List.take_drop, List.take_range, List.range_eq_range', List.drop_range',
        Nat.zero_add, Nat.mul_one]
    rw [all_eq_map positive, List.flatMap_map]
    simp only [show ∀ first, (ofFirst total size first).first = first from fun _ => rfl, interval]
    exact Progression.flatMap_slices (List.range total) positive 0 (by simp)

end Page

end SocialMigration
