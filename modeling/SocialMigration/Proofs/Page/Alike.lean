import SocialMigration.Proofs.Page.Reassembly
import SocialMigration.Proofs.Run.Alike
import SocialMigration.Proofs.Run.Kept

/-!
# Fetches side by side

Two fetches of a collection are alike in two ways. Fetches in the same pages and with the same order
of answers go in step. Fetches in different pages do not; but if the pages are slices of one
collection, both hand out the same records and leave nothing behind but reads.
-/

namespace SocialMigration

namespace Page

open Likeness (Parts)
open Run (Keeps Prints)

variable [Platform] {World : Type} {likeness : Likeness World}
  {source : Source (StateM World)}

/-! ## In step -/

section Steady

variable [Platform.PrintsAll] (answers : ∀ page : Page,
  likeness.Answers source.network (page.query source.account source.method))
include answers

theorem receive_steady (page : Page) : likeness.Steady (page.receive source) := by
  apply (Parts.await (answers page)).bind
  intro answer
  apply (Parts.ofExcept _).bind
  intro items
  apply (Parts.printIf _ _ _ _).bind
  intro _
  exact .pure items

theorem receiveEach_steady (pages : List Page) : likeness.Steady (receiveEach source pages) := by
  induction pages with
  | nil => exact .pure []
  | cons page pages ih =>
      apply ((Parts.record rfl).bind fun _ => receive_steady answers page).attempt.bind
      intro outcome
      apply ih.bind
      intro outcomes
      exact .pure (outcome :: outcomes)

omit [Platform] [Platform.PrintsAll] answers in
theorem requestStarting_steady (limit : Nat) (flight : Flight) :
    likeness.Steady (requestStarting source limit flight) :=
  Parts.forM _ fun _ _ => Parts.record rfl

theorem drain_steady (limit : Nat) (order : List Nat) (late : Nat) (flight : Flight) :
    likeness.Steady (drain source limit order late flight) := by
  induction late generalizing flight with
  | zero => exact requestStarting_steady limit flight
  | succ late ih =>
      apply (requestStarting_steady limit flight).bind
      intro _
      dsimp only
      cases (flight.launch limit).next? order with
      | none => exact .pure ()
      | some page =>
          apply (receive_steady answers page).attempt.discard.bind
          intro _
          exact ih _

theorem fly_steady (limit : Nat) (order : List Nat) (late count : Nat) (flight : Flight) :
    likeness.Steady (fly source limit order late count flight) := by
  induction count generalizing flight with
  | zero => exact .pure flight
  | succ count ih =>
      apply (requestStarting_steady limit flight).bind
      intro _
      dsimp only
      cases (flight.launch limit).next? order with
      | none => exact .pure _
      | some page =>
          apply (receive_steady answers page).attempt.bind
          intro outcome
          cases outcome with
          | ok items => exact ih _
          | error failure =>
              apply (drain_steady answers limit order late _).bind
              intro _
              exact .ofExcept (.error failure)

theorem fetchAll_steady (limits : PageLimits) (delivery : Delivery) (total : Int) :
    likeness.Steady (fetchAll source limits delivery total) := by
  rw [fetchAll]
  split
  · exact .ofExcept (.error _)
  split
  · exact .ofExcept (.error _)
  cases delivery with
  | atOnce =>
      apply (receiveEach_steady answers _).bind
      intro outcomes
      exact .ofExcept _
  | inOrder order late =>
      apply (fly_steady answers _ _ _ _ _).bind
      intro flight
      exact .pure _

end Steady

/-! ## Out of step -/

section Keeps

variable {inv : World → Prop} (kept : ∀ (page : Page) world, inv world →
  inv ((source.network.ask (page.query source.account source.method)).run world).2)
include kept

/-- What every query for a page keeps of the world, a page that is received keeps. -/
theorem keeps_receive (page : Page) : Keeps inv (page.receive source) := by
  apply (Keeps.await (kept page)).bind
  intro answer
  apply (Keeps.ofExcept _).bind
  intro items
  exact (Prints.printIf _ _).keeps.bind fun _ => .pure items

theorem keeps_receiveEach (pages : List Page) : Keeps inv (receiveEach source pages) := by
  induction pages with
  | nil => exact .pure []
  | cons page pages ih =>
      apply ((Keeps.record _).bind fun _ => keeps_receive kept page).attempt.bind
      intro outcome
      exact ih.bind fun outcomes => .pure (outcome :: outcomes)

omit [Platform] kept in
theorem keeps_requestStarting (limit : Nat) (flight : Flight) :
    Keeps inv (requestStarting source limit flight) :=
  .forM _ fun _ => .record _

theorem keeps_drain (limit : Nat) (order : List Nat) (late : Nat) (flight : Flight) :
    Keeps inv (drain source limit order late flight) := by
  induction late generalizing flight with
  | zero => exact keeps_requestStarting limit flight
  | succ late ih =>
      apply (keeps_requestStarting limit flight).bind
      intro _
      extract_lets launched
      cases launched.next? order with
      | none => exact .pure ()
      | some page => exact (Keeps.discard _ (keeps_receive kept page).attempt).bind fun _ => ih _

theorem keeps_fly (limit : Nat) (order : List Nat) (late count : Nat) (flight : Flight) :
    Keeps inv (fly source limit order late count flight) := by
  induction count generalizing flight with
  | zero => exact .pure flight
  | succ count ih =>
      apply (keeps_requestStarting limit flight).bind
      intro _
      extract_lets launched
      cases launched.next? order with
      | none => exact .pure launched
      | some page =>
          apply (keeps_receive kept page).attempt.bind
          intro outcome
          cases outcome with
          | ok items => exact ih _
          | error failure =>
              exact (keeps_drain kept limit order late _).bind fun _ => .ofExcept (.error failure)

theorem keeps_fetch (limits : PageLimits) (delivery : Delivery) (total : Nat) :
    Keeps inv (fetch source limits delivery total) := by
  cases delivery with
  | atOnce => exact (keeps_receiveEach kept _).bind fun _ => .ofExcept _
  | inOrder order late => exact (keeps_fly kept _ _ _ _ _).bind fun _ => .pure _

theorem keeps_fetchAll (limits : PageLimits) (delivery : Delivery) (total : Int) :
    Keeps inv (fetchAll source limits delivery total) := by
  rw [fetchAll]
  split
  · exact .ofExcept (.error _)
  split
  · exact .ofExcept (.error _)
  · exact keeps_fetch kept limits delivery _

end Keeps

variable [Platform.PrintsAll]

/-- A fetch of slices hands out the collection up to the total, leaves nothing behind but reads, and
keeps what every query for a page keeps. -/
theorem fetch_slices {held : List Json} {inv : World → Prop} {session : Session} {world : World}
    (limits : PageLimits) (delivery : Delivery) (total : Nat)
    (serves : ∀ page : Page, ∀ world,
      ((source.network.ask (page.query source.account source.method)).run world).1.outcome =
        .ok (.arr (page.slice held)))
    (kept : ∀ (page : Page) world, inv world →
      inv ((source.network.ask (page.query source.account source.method)).run world).2)
    (unseen : ∀ event : Event, event.IsReadOf source.account source.method →
      likeness.view event = none)
    (before : inv world) :
    Run.Ends (fetch source limits delivery total) session world
      (fun records later after => records = held.take total ∧ likeness.Sessions session later ∧
        inv after) (fun _ _ _ => False) := by
  have assigns : source.network.Assigns source.account source.method (all total limits.size)
      (slice held) := fun page _ => serves page
  apply (((fetch_ends limits delivery total).and (fetch_returns delivery assigns)).and
    (keeps_fetch kept limits delivery total session world before)).mono
  · intro records later after ended
    rcases ended with ⟨⟨⟨arrivals, trace, fetched, rfl, logs⟩, -⟩, kept⟩
    refine ⟨?_, Likeness.sessions_of_logs logs ?_, kept⟩
    · rw [fetched.joined assigns, flatMap_slice_all limits.size_pos]
    · rw [List.filterMap_eq_nil_iff]
      exact fun event member => unseen event (fetched.reads event member)
  · exact fun _ _ _ ended => ended.1.2

/-- Fetches of slices in different pages and orders are alike, if the same stands in the way of
listing the pages, or nothing. -/
theorem fetchAll_parts {held : List Json} {limits limits' : PageLimits} {total : Nat}
    (delivery delivery' : Delivery)
    (serves : ∀ page : Page, ∀ world,
      ((source.network.ask (page.query source.account source.method)).run world).1.outcome =
        .ok (.arr (page.slice held)))
    (left : ∀ (page : Page) world world', likeness.worlds world world' → likeness.worlds
      ((source.network.ask (page.query source.account source.method)).run world).2 world')
    (right : ∀ (page : Page) world world', likeness.worlds world world' → likeness.worlds world
      ((source.network.ask (page.query source.account source.method)).run world').2)
    (unseen : ∀ event : Event, event.IsReadOf source.account source.method →
      likeness.view event = none)
    (listed : Progression.obstacle? 0 total limits.size =
      Progression.obstacle? 0 total limits'.size) :
    likeness.Parts (fetchAll source limits delivery total)
      (fetchAll source limits' delivery' total) := by
  cases blocked : Progression.obstacle? 0 total limits.size with
  | some obstacle =>
      rw [fetchAll_of_obstacle blocked, fetchAll_of_obstacle (listed ▸ blocked)]
      exact .ofExcept (.error _)
  | none =>
      rw [fetchAll_eq blocked, fetchAll_eq (listed ▸ blocked)]
      apply Parts.of_ends
      · intro session world world' worlds
        exact fetch_slices limits delivery total serves
          (fun page world => left page world world') unseen worlds
      · intro session world world' worlds
        exact fetch_slices limits' delivery' total serves
          (fun page world' => right page world world') unseen worlds

end Page

end SocialMigration
