import Mathlib.Data.List.TakeDrop
import SocialMigration.Proofs.Page.Failing

/-!
# Slots

How many pages are in flight at each moment of a fetch, also after an answer that fails. What the
slots guarantee is shown by induction on the course of a flight: after each answer the pages for
which a slot is free are asked for, and then any page in flight is answered. The first pages that
are asked for already take every slot that is ever taken, so the peak is reached before the first
answer.
-/

namespace SocialMigration

open scoped List

namespace Event

/-- How many queries are in flight after some events, given how many are before them. -/
def inFlightAfter (before : Nat) : List Event → Nat
  | [] => before
  | asked _ :: events => inFlightAfter (before + 1) events
  | answered .. :: events => inFlightAfter (before - 1) events
  | _ :: events => inFlightAfter before events

theorem le_peakFrom (before : Nat) (events : List Event) : before ≤ peakFrom before events := by
  induction events generalizing before with
  | nil => exact Nat.le_refl before
  | cons event events ih =>
      cases event with
      | asked query => exact Nat.le_trans (Nat.le_succ before) (ih (before + 1))
      | answered query outcome => exact Nat.le_max_left ..
      | printed line => exact ih before
      | announced first last total => exact ih before
      | called call outcome => exact ih before

/-- At no moment are more queries in flight than at the peak. -/
theorem inFlightAfter_take_le_peakFrom (before : Nat) (events : List Event) (moment : Nat) :
    inFlightAfter before (events.take moment) ≤ peakFrom before events := by
  induction events generalizing before moment with
  | nil => simp [inFlightAfter, peakFrom]
  | cons event events ih =>
      cases moment with
      | zero => exact le_peakFrom before (event :: events)
      | succ moment =>
          cases event with
          | asked query => exact ih (before + 1) moment
          | answered query outcome =>
              exact Nat.le_trans (ih (before - 1) moment) (Nat.le_max_right ..)
          | printed line => exact ih before moment
          | announced first last total => exact ih before moment
          | called call outcome => exact ih before moment

end Event

namespace Page

variable {account method : Text} {pages : List Page} {rest : List Event} {before : Nat}

@[simp] theorem length_asking : (asking account method pages).length = pages.length :=
  List.length_map ..

theorem take_asking {event : Event} (later : Nat) :
    (asking account method pages ++ event :: rest).take (pages.length + (later + 1)) =
      asking account method pages ++ event :: rest.take later := by
  rw [← @length_asking account method pages, List.take_length_add_append, List.take_succ_cons]

@[simp] theorem inFlightAfter_asking :
    Event.inFlightAfter before (asking account method pages ++ rest) =
      Event.inFlightAfter (before + pages.length) rest := by
  induction pages generalizing before with
  | nil => rfl
  | cons page pages ih =>
      rw [List.length_cons, Nat.add_comm pages.length, ← Nat.add_assoc]
      exact ih

@[simp] theorem peakFrom_asking :
    peakFrom before (asking account method pages ++ rest) =
      peakFrom (before + pages.length) rest := by
  induction pages generalizing before with
  | nil => rfl
  | cons page pages ih =>
      rw [List.length_cons, Nat.add_comm pages.length, ← Nat.add_assoc]
      exact ih

end Page

namespace Flight

variable {account method : Text} {limit : Nat} {flight : Flight} {events : List Event}
  {answered : List (Page × Except Failure Json)} {page : Page}

/-! ## Slots taken -/

/-- As many pages are in flight after a launch as there are slots, or all that are left. -/
theorem length_launch (within : flight.inFlight.length ≤ limit) :
    flight.inFlight.length + (flight.starting limit).length =
      min limit flight.pending.length := by
  rw [starting, List.length_take, pending, List.length_append]
  omega

theorem length_release (member : page ∈ flight.inFlight) :
    (flight.release page).inFlight.length + 1 = flight.inFlight.length :=
  List.length_erase_add_one member

theorem length_inFlight_launch : (flight.launch limit).inFlight.length =
    flight.inFlight.length + (flight.starting limit).length :=
  List.length_append ..

/-- After a launch every slot is taken, or no page is left that waits for one. -/
theorem full_of_launch (within : flight.inFlight.length ≤ limit) :
    flight.inFlight.length + (flight.starting limit).length = limit ∨
      flight.starting limit = flight.waiting := by
  rw [starting, List.length_take, List.take_eq_self_iff]
  omega

/-- A flight takes every slot that it ever takes before the first answer. -/
theorem Course.peak_eq (course : Course account method limit flight answered events)
    (within : flight.inFlight.length ≤ limit) :
    peakFrom flight.inFlight.length events = min limit flight.pending.length := by
  induction course with
  | @unanswered flight =>
      rw [← List.append_nil (Page.asking ..), Page.peakFrom_asking, peakFrom]
      exact length_launch within
  | @answered flight page outcome answered events member _ ih =>
      have taken := length_launch within
      have left := length_release member
      have rests := (pending_release member).length_eq
      rw [length_inFlight_launch] at left
      rw [pending_launch, List.length_cons] at rests
      rw [Page.peakFrom_asking, ← left, peakFrom, Nat.add_sub_cancel, ih (by omega)]
      omega

/-- An answer behind pages that are asked for stands right behind them, or further on. -/
theorem moment_of_answered {pages : List Page} {event : Event} {moment : Nat} {query : Query}
    {outcome : Except Failure Json}
    (waits : (Page.asking account method pages ++ event :: events)[moment]? =
      some (.answered query outcome)) :
    moment = pages.length ∨ ∃ later, moment = pages.length + (later + 1) ∧
      events[later]? = some (.answered query outcome) := by
  rcases Nat.lt_trichotomy moment pages.length with inside | here | past
  · rw [List.getElem?_append_left (by simpa using inside), Page.asking, List.getElem?_map,
      List.getElem?_eq_getElem inside] at waits
    cases Option.some.inj waits
  · exact .inl here
  · rcases Nat.exists_eq_add_of_lt past with ⟨later, rfl⟩
    refine .inr ⟨later, rfl, ?_⟩
    rw [List.getElem?_append_right (by simp; omega)] at waits
    simpa [Nat.add_assoc] using waits

/-- Before the first answer after a launch, every slot is taken, or all pages have been asked
for. -/
theorem full_behind_launch (within : flight.inFlight.length ≤ limit) :
    Event.inFlightAfter flight.inFlight.length
        ((Page.asking account method (flight.starting limit) ++ events).take
          (flight.starting limit).length) = limit ∨
      ((Page.asking account method (flight.starting limit) ++ events).take
          (flight.starting limit).length).filterMap Event.query? =
        flight.waiting.map (Page.query account method) := by
  rw [List.take_left' Page.length_asking, Page.filterMap_query?_asking]
  apply (full_of_launch within).imp
  · intro taken
    rw [← List.append_nil (Page.asking ..), Page.inFlightAfter_asking]
    exact taken
  · intro all
    rw [all]

/-- Whenever an answer is waited for, every slot is taken, or all pages have been asked for. -/
theorem Course.full (course : Course account method limit flight answered events)
    (within : flight.inFlight.length ≤ limit) {moment : Nat} {query : Query}
    {outcome : Except Failure Json} (waits : events[moment]? = some (.answered query outcome)) :
    Event.inFlightAfter flight.inFlight.length (events.take moment) = limit ∨
      (events.take moment).filterMap Event.query? =
        flight.waiting.map (Page.query account method) := by
  induction course generalizing moment with
  | unanswered =>
      have asked := Page.isAsked_of_mem_asking (List.mem_of_getElem? waits)
      simp at asked
  | @answered flight page answer answered events member _ ih =>
      rcases moment_of_answered waits with rfl | ⟨later, rfl, waits'⟩
      · exact full_behind_launch within
      · have left := length_release member
        have taken := length_launch within
        have waiting : flight.waiting =
            flight.starting limit ++ ((flight.launch limit).release page).waiting :=
          (List.take_append_drop ..).symm
        rw [length_inFlight_launch] at left
        rw [Page.take_asking, Page.inFlightAfter_asking, ← left, waiting]
        apply (ih (by omega) waits').imp
        · intro full
          exact full
        · intro asked
          simp [List.filterMap_cons, Event.query?, asked]

end Flight

namespace Page

/-- A session comes after another one by the events of a course that a flight can take. -/
def Brings (account method : Text) (limit : Nat) (flight : Flight) (session later : Session) :
    Prop :=
  ∃ answered events, flight.Course account method limit answered events ∧
    session.Logs events later

section

variable [Platform] [Platform.PrintsAll] {World : Type} {source : Source (StateM World)}
  {session : Session} {world : World} {limit : Nat} {flight : Flight}

/-- Whatever the delivery and the answers, a flight takes one of its courses. -/
theorem fly_brings (order : List Nat) (late : Nat) {answers : Nat}
    (enough : flight.pending.length ≤ answers) :
    Run.Ends (fly source limit order late answers flight) session world
      (fun _ later _ => Brings source.account source.method limit flight session later)
      (fun _ later _ => Brings source.account source.method limit flight session later) := by
  induction answers generalizing flight session world with
  | zero =>
      have idle : flight.pending = [] := List.eq_nil_of_length_eq_zero (Nat.le_zero.mp enough)
      have none : flight.starting limit = [] := by
        rw [Flight.starting, (List.append_eq_nil_iff.mp idle).2, List.take_nil]
      have halted : flight.Course source.account source.method limit [] (asking _ _ _) :=
        .unanswered
      rw [none] at halted
      exact ⟨[], [], halted, .refl session⟩
  | succ answers ih =>
      have asked := logs_asking source.account source.method session (flight.starting limit)
      rw [ends_fly_succ]
      cases next : (flight.launch limit).next? order with
      | none => exact ⟨[], _, .unanswered, asked⟩
      | some page =>
          have member := Flight.next?_mem next
          apply (receive_ends page).mono
          · intro items between after ended
            have left := (Flight.pending_land items member).length_eq
            rw [Flight.pending_launch, List.length_cons] at left
            have brings (later : Session) :
                Brings source.account source.method limit
                  ((flight.launch limit).land page items) between later →
                Brings source.account source.method limit flight session later := by
              rintro ⟨answered, events, course, logs⟩
              exact ⟨_, _, .answered member (course.congr rfl rfl),
                asked.append (ended.2.append logs)⟩
            exact (ih (by omega)).mono (fun _ later _ => brings later)
              fun _ later _ => brings later
          · intro failure between after ended
            rcases ended with ⟨-, outcome, logs⟩
            refine (drain_ends order late _).mono ?_ (fun _ _ _ => False.elim)
            rintro _ later _ ⟨answered, events, course, -, logs'⟩
            exact ⟨_, _, .answered member course, asked.append (logs.append logs')⟩

/-- Of pages that are answered at once, no two are in flight together. -/
theorem receiveEach_peak (pages : List Page) :
    Run.Ends (receiveEach source pages) session world
      (fun _ later _ => ∃ events, session.Logs events later ∧ peakFrom 0 events ≤ 1 ∧
        events.filterMap Event.query? = pages.map (query source.account source.method))
      (fun _ _ _ => False) := by
  induction pages generalizing session world with
  | nil => exact ⟨[], .refl session, Nat.zero_le 1, rfl⟩
  | cons page pages ih =>
      have asked := session.logs_extend [.asked (page.query source.account source.method)]
      simp only [receiveEach, request, Run.ends_bind, Run.ends_attempt, Run.ends_record]
      apply (receive_ends page).mono
      · intro items between after ended
        refine ih.mono ?_ (fun _ _ _ => id)
        intro outcomes later _ rest
        rcases rest with ⟨events, logs, peak, queries⟩
        refine ⟨_, asked.append (ended.2.append logs), ?_, ?_⟩
        · simpa [peakFrom] using peak
        · simpa [Event.query?, List.filterMap_cons] using queries
      · intro failure between after ended
        rcases ended with ⟨-, outcome, logs⟩
        refine ih.mono ?_ (fun _ _ _ => id)
        intro outcomes later _ rest
        rcases rest with ⟨events, logs', peak, queries⟩
        refine ⟨_, asked.append (logs.append logs'), ?_, ?_⟩
        · simpa [peakFrom] using peak
        · simpa [Event.query?, List.filterMap_cons] using queries

end

/-! ## Fetches -/

/-- What slots guarantee of the events of a fetch: at no moment are more pages in flight than there
are slots, and pages are asked for in ascending order, none of them twice. -/
structure Bounded (account method : Text) (slots : Nat) (pages : List Page)
    (events : List Event) : Prop where
  inFlight : ∀ moment, Event.inFlightAfter 0 (events.take moment) ≤ slots
  started : ∃ started, started <+: pages ∧ (started.map first).Pairwise (· < ·) ∧
    events.filterMap Event.query? = started.map (query account method)

/-- What they guarantee if answers have to be waited for: whenever one is, every slot is taken, or
all pages have been asked for. -/
structure Paced (account method : Text) (slots : Nat) (pages : List Page)
    (events : List Event) : Prop extends Bounded account method slots pages events where
  full : ∀ moment query outcome, events[moment]? = some (.answered query outcome) →
    Event.inFlightAfter 0 (events.take moment) = slots ∨
      (events.take moment).filterMap Event.query? = pages.map (Page.query account method)

variable {account method : Text} {slots total size : Nat} {pages : List Page} {events : List Event}

theorem all_first_pairwise (total : Nat) (positive : 0 < size) :
    ((all total size).map first).Pairwise (· < ·) := by
  rw [all_eq_map positive, List.map_map]
  exact (Progression.below_pairwise 0 size total).map _ fun _ _ => id

theorem length_all (total : Nat) (positive : 0 < size) :
    (all total size).length = total ⌈/⌉ size := by
  rw [all, List.length_map, pageOffsets, Progression.offsets, List.length_map, List.length_range]
  exact @Progression.count_eq_ceilDiv 0 size total positive

theorem bounded_of_peak (ascending : (pages.map first).Pairwise (· < ·))
    (peak : peakFrom 0 events ≤ slots)
    (asked : ∃ started, started <+: pages ∧
      events.filterMap Event.query? = started.map (query account method)) :
    Bounded account method slots pages events where
  inFlight moment := Nat.le_trans (Event.inFlightAfter_take_le_peakFrom 0 events moment) peak
  started := by
    rcases asked with ⟨started, front, queries⟩
    exact ⟨started, front, ascending.sublist (front.sublist.map first), queries⟩

/-- A flight that starts with pages in ascending order is paced by its slots, and has as many of its
pages in flight at its peak as there are slots, or all of them. -/
theorem paced_of_course {answered : List (Page × Except Failure Json)}
    (ascending : (pages.map first).Pairwise (· < ·))
    (course : (Flight.ofPages pages).Course account method slots answered events) :
    Paced account method slots pages events ∧ peakFrom 0 events = min slots pages.length := by
  have peak : peakFrom 0 events = min slots pages.length := course.peak_eq (Nat.zero_le slots)
  have bounded := bounded_of_peak ascending (peak ▸ Nat.min_le_left ..) course.asked
  exact ⟨⟨bounded, fun _ _ _ waits => course.full (Nat.zero_le slots) waits⟩, peak⟩

theorem bounded_nil (account method : Text) (slots : Nat) (pages : List Page) :
    Bounded account method slots pages [] where
  inFlight moment := by simp [Event.inFlightAfter]
  started := ⟨[], List.nil_prefix, List.Pairwise.nil, rfl⟩

theorem paced_nil (account method : Text) (slots : Nat) (pages : List Page) :
    Paced account method slots pages [] where
  toBounded := bounded_nil account method slots pages
  full moment query outcome waits := by simp at waits

section

variable [Platform] [Platform.PrintsAll] {World : Type} {source : Source (StateM World)}
  {session : Session} {world : World}

/-- A fetch that asks for its pages at once never has two of them in flight. -/
theorem fetch_atOnce_bounded (limits : PageLimits) (total : Nat) :
    Run.Ends (fetch source limits .atOnce total) session world
      (fun _ later _ => ∃ events, session.Logs events later ∧
        Bounded source.account source.method limits.inFlight (all total limits.size) events)
      (fun _ later _ => ∃ events, session.Logs events later ∧
        Bounded source.account source.method limits.inFlight (all total limits.size) events) := by
  simp only [fetch, Run.ends_bind, Run.ends_ofExcept]
  refine (receiveEach_peak _).mono ?_ (fun _ _ _ => False.elim)
  intro outcomes later _ ended
  rcases ended with ⟨events, logs, peak, asked⟩
  have bounded := bounded_of_peak (all_first_pairwise total limits.size_pos)
    (Nat.le_trans peak limits.inFlight_pos) ⟨_, List.prefix_rfl, asked⟩
  cases joinOutcomes outcomes with
  | ok records => exact ⟨events, logs, bounded⟩
  | error failure => exact ⟨events, logs, bounded⟩

/-- A fetch whose answers are waited for is paced by its slots, whatever the answers and their
order, and takes as many as it can. -/
theorem fetch_inOrder_paced (limits : PageLimits) (order : List Nat) (late total : Nat) :
    let paced (later : Session) : Prop := ∃ events, session.Logs events later ∧
      Paced source.account source.method limits.inFlight (all total limits.size) events ∧
      peakFrom 0 events = min limits.inFlight (total ⌈/⌉ limits.size)
    Run.Ends (fetch source limits (.inOrder order late) total) session world
      (fun _ later _ => paced later) (fun _ later _ => paced later) := by
  intro paced
  have enough : (Flight.ofPages (all total limits.size)).pending.length ≤
      (all total limits.size).length := Nat.le_refl _
  have of_brings (later : Session) (brings : Brings source.account source.method limits.inFlight
      (.ofPages (all total limits.size)) session later) : paced later := by
    rcases brings with ⟨answered, events, course, logs⟩
    have counted := paced_of_course (all_first_pairwise total limits.size_pos) course
    rw [length_all total limits.size_pos] at counted
    exact ⟨events, logs, counted⟩
  simp only [fetch, Run.ends_bind, Run.ends_pure]
  exact (fly_brings order late enough).mono (fun _ later _ => of_brings later)
    fun _ later _ => of_brings later

/-- The events of a fetch that succeeds ask for every page, and answer each of them once. -/
theorem fetch_complete (limits : PageLimits) (delivery : Delivery) (total : Nat) :
    Run.Ends (fetch source limits delivery total) session world
      (fun _ later _ => ∃ events, session.Logs events later ∧
        events.filterMap Event.query? =
          queries source.account source.method total limits.size ∧
        (events.filterMap Event.answer?).map Prod.fst ~
          queries source.account source.method total limits.size)
      (fun _ _ _ => True) := by
  apply (fetch_ends limits delivery total).mono
  · intro records later _ ended
    rcases ended with ⟨arrivals, events, fetched, -, logs⟩
    have asked := fetched.asked
    rw [map_query_all _ _ _ limits.size_pos] at asked
    have answered := fetched.answered.map Prod.fst
    have same : (Page.answers source.account source.method arrivals).map Prod.fst =
        (arrivals.map Prod.fst).map (query source.account source.method) := by
      simp [Page.answers]
    rw [same, fetched.complete, map_query_all _ _ _ limits.size_pos] at answered
    exact ⟨events, logs, asked, answered⟩
  · intro _ _ _ _
    trivial

omit [Platform.PrintsAll] in
/-- A fetch of a collection of a reported size fails at once if its pages are too many to be listed,
and otherwise ends as the fetch of its pages does. -/
theorem fetchAll_ends_of {limits : PageLimits} {delivery : Delivery} {total : Nat}
    {returned : List Json → Session → World → Prop} {failed : Failure → Session → World → Prop}
    (blocked : ∀ failure, failed failure session world)
    (listed : Progression.obstacle? 0 total limits.size = none →
      Run.Ends (fetch source limits delivery total) session world returned failed) :
    Run.Ends (fetchAll source limits delivery total) session world returned failed := by
  cases obstacle : Progression.obstacle? 0 total limits.size with
  | none =>
      rw [fetchAll_eq obstacle]
      exact listed obstacle
  | some obstacle' =>
      rw [fetchAll_of_obstacle obstacle]
      exact blocked _

/-- Whatever the delivery, a fetch of a collection of a reported size never has more pages in flight
than there are slots. -/
theorem fetchAll_bounded (limits : PageLimits) (total : Nat) (delivery : Delivery) :
    let bounded (later : Session) : Prop := ∃ events, session.Logs events later ∧
      Bounded source.account source.method limits.inFlight (all total limits.size) events
    Run.Ends (fetchAll source limits delivery total) session world
      (fun _ later _ => bounded later) (fun _ later _ => bounded later) := by
  intro bounded
  apply fetchAll_ends_of
  · intro _
    exact ⟨[], .refl session, bounded_nil ..⟩
  · intro _
    cases delivery with
    | atOnce => exact fetch_atOnce_bounded limits total
    | inOrder order late =>
        have of_paced (later : Session) : (∃ events, session.Logs events later ∧
            Paced source.account source.method limits.inFlight (all total limits.size) events ∧
            peakFrom 0 events = min limits.inFlight (total ⌈/⌉ limits.size)) → bounded later := by
          rintro ⟨events, logs, paced, -⟩
          exact ⟨events, logs, paced.toBounded⟩
        exact (fetch_inOrder_paced limits order late total).mono (fun _ later _ => of_paced later)
          fun _ later _ => of_paced later

/-- If answers have to be waited for, a fetch is paced by its slots; one that succeeds has taken as
many slots as it can, and has got one answer for each page. -/
theorem fetchAll_paced (limits : PageLimits) (total : Nat) (order : List Nat) (late : Nat) :
    let asked := queries source.account source.method total limits.size
    Run.Ends (fetchAll source limits (.inOrder order late) total) session world
      (fun _ later _ => ∃ events, session.Logs events later ∧
        Paced source.account source.method limits.inFlight (all total limits.size) events ∧
        peakFrom 0 events = min limits.inFlight (total ⌈/⌉ limits.size) ∧
        events.filterMap Event.query? = asked ∧
        (events.filterMap Event.answer?).map Prod.fst ~ asked)
      (fun _ later _ => ∃ events, session.Logs events later ∧
        Paced source.account source.method limits.inFlight (all total limits.size) events) := by
  intro asked
  apply fetchAll_ends_of
  · intro _
    exact ⟨[], .refl session, paced_nil ..⟩
  · intro _
    apply ((fetch_inOrder_paced limits order late total).and
      (fetch_complete limits (.inOrder order late) total)).mono
    · rintro _ later _ ⟨⟨events, logs, paced, peak⟩, ⟨events', logs', complete, answered⟩⟩
      rcases logs.unique logs' with rfl
      exact ⟨events, logs, paced, peak, complete, answered⟩
    · rintro _ later _ ⟨⟨events, logs, paced, -⟩, -⟩
      exact ⟨events, logs, paced⟩

/-- Each way in which pages with fixed answers can arrive is that of a delivery. -/
theorem exists_delivery {limits : PageLimits} {total : Nat} {answer : Page → Except Failure Json}
    {answered : List Page} {verdict : Option Failure}
    (listed : Progression.obstacle? 0 total limits.size = none)
    (fixed : source.network.Fixes source.account source.method (all total limits.size) answer)
    (resolves : (Flight.ofPages (all total limits.size)).Resolves source.account source.method
      limits.inFlight answer answered verdict) :
    ∃ order late, ∀ session world,
      Run.Ends (fetchAll source limits (.inOrder order late) total) session world
        (fun _ later _ => verdict = none ∧
          Received source.account source.method answer session answered later)
        (fun failure later _ => verdict = some failure ∧
          Received source.account source.method answer session answered later) := by
  rcases fly_of_resolves resolves fixed with ⟨late, flies⟩
  refine ⟨answered.map first, late, fun session world => ?_⟩
  have enough : answered.length ≤ (all total limits.size).length := by
    cases verdict with
    | none => exact (resolves.of_none limits.inFlight_pos).1.length_eq.le
    | some failure => exact resolves.of_some.1.length_le
  rw [fetchAll_eq listed, fetch, Run.ends_bind]
  exact flies [] _ session world enough (apart_ofPages total limits.size_pos)

/-- At every moment of a fetch there are at most as many pages in flight as there are slots, and
pages are asked for in ascending order, none of them twice; that includes the moments between an
answer that fails and the end of the fetch. If answers have to be waited for, then whenever one is,
every slot is taken or all pages have been asked for; so a fetch that succeeds has had all slots
taken, or all pages in flight, at its peak, and it has got one answer for each page. Every way in
which a fetch of pages can go is that of a delivery. -/
theorem fetchAll_fills_slots (source : Source (StateM World)) (limits : PageLimits) (total : Nat) :
    let pages := all total limits.size
    let asked := queries source.account source.method total limits.size
    (∀ delivery session world,
      Run.Ends (fetchAll source limits delivery total) session world
        (fun _ later _ => ∃ events, session.Logs events later ∧
          Bounded source.account source.method limits.inFlight pages events)
        (fun _ later _ => ∃ events, session.Logs events later ∧
          Bounded source.account source.method limits.inFlight pages events)) ∧
    (∀ order late session world,
      Run.Ends (fetchAll source limits (.inOrder order late) total) session world
        (fun _ later _ => ∃ events, session.Logs events later ∧
          Paced source.account source.method limits.inFlight pages events ∧
          peakFrom 0 events = min limits.inFlight (total ⌈/⌉ limits.size) ∧
          events.filterMap Event.query? = asked ∧
          (events.filterMap Event.answer?).map Prod.fst ~ asked)
        (fun _ later _ => ∃ events, session.Logs events later ∧
          Paced source.account source.method limits.inFlight pages events)) ∧
    (Progression.obstacle? 0 total limits.size = none → ∀ answer,
      source.network.Fixes source.account source.method pages answer → ∀ answered verdict,
      (Flight.ofPages pages).Resolves source.account source.method limits.inFlight answer answered
        verdict →
      ∃ order late, ∀ session world,
        Run.Ends (fetchAll source limits (.inOrder order late) total) session world
          (fun _ later _ => verdict = none ∧
            Received source.account source.method answer session answered later)
          (fun failure later _ => verdict = some failure ∧
            Received source.account source.method answer session answered later)) := by
  intro pages asked
  refine ⟨?_, ?_, ?_⟩
  · intro delivery session world
    exact fetchAll_bounded limits total delivery
  · intro order late session world
    exact fetchAll_paced limits total order late
  · intro listed answer fixed answered verdict resolves
    exact exists_delivery listed fixed resolves

end

attribute [local instance] Platform.accepting Platform.printsAll_accepting

/-- Three nodes in pages of one, and two slots: two pages are in flight at the peak, also if the
first page is answered last. -/
theorem fetchAll_fills_slots_pairwise :
    let source : Source (StateM Nat) :=
      ⟨.ofLedger "old.testnet" Migration.someNodes Migration.someAccounts, "old.testnet",
        "get_nodes", false⟩
    let limits : PageLimits := ⟨1, 2, by decide, by decide⟩
    let pages : List Page := [⟨0, 1⟩, ⟨1, 1⟩, ⟨2, 1⟩]
    let answer (page : Page) : Except Failure Json := .ok (.arr (page.slice Migration.someNodes))
    let answered : List Page := [⟨1, 1⟩, ⟨2, 1⟩, ⟨0, 1⟩]
    all 3 1 = pages ∧ source.network.Fixes source.account source.method pages answer ∧
      (Flight.ofPages pages).Resolves source.account source.method 2 answer answered none ∧
      ∃ order late, Run.Ends (fetchAll source limits (.inOrder order late) 3) {} 0
        (fun _ later _ => Received source.account source.method answer {} answered later ∧
          ∃ events, Session.Logs {} events later ∧ peakFrom 0 events = 2)
        (fun _ _ _ => False) := by
  intro source limits pages answer answered
  have listed : Progression.obstacle? 0 ((3 : Nat) : Int) limits.size = none := by decide
  have whole : all 3 1 = pages := by decide
  have fixed : source.network.Fixes source.account source.method pages answer :=
    fun page _ world => rfl
  have resolves : (Flight.ofPages pages).Resolves source.account source.method 2 answer answered
      none := by
    apply Flight.Resolves.next (by decide) rfl
    apply Flight.Resolves.next (by decide) rfl
    apply Flight.Resolves.next (by decide) rfl
    exact .nothing rfl
  rcases fetchAll_fills_slots source limits 3 with ⟨-, paced, every⟩
  rcases every listed answer (whole ▸ fixed) answered none (whole ▸ resolves) with
    ⟨order, late, ends⟩
  refine ⟨whole, fixed, resolves, order, late, ?_⟩
  apply ((ends {} 0).and (paced order late {} 0)).mono
  · rintro _ later _ ⟨⟨-, received⟩, events, logs, -, peak, -⟩
    have two : min limits.inFlight (3 ⌈/⌉ limits.size) = 2 := by decide
    exact ⟨received, events, logs, peak.trans two⟩
  · rintro failure later _ ⟨⟨impossible, -⟩, -⟩
    exact nomatch impossible

/-- Two of six pages are in flight. When the first one fails, the third is asked for before the
fetch ends, because it has waited for the slot. -/
example :
    let answerAt : Nat → Except Failure Json
      | 0 => .error (.query "old.testnet" "get_nodes" (.reported "down"))
      | _ => .ok (.arr [])
    let source : Source (StateM Nat) := ⟨.ofPages answerAt, "old.testnet", "get_nodes", false⟩
    let limits : PageLimits := ⟨1, 2, by decide, by decide⟩
    let ended := (Run.start (fetchAll source limits (.inOrder []) 6)).run 0
    let pages : List Page := [⟨0, 1⟩, ⟨1, 1⟩, ⟨2, 1⟩]
    ended.1.2.events.filterMap Event.query? = pages.map (query "old.testnet" "get_nodes") := by
  rfl

end Page

end SocialMigration
