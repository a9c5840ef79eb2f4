import Mathlib.Data.List.Perm.Subperm
import SocialMigration.Proofs.Page.Flight

/-!
# How a flight can go

If it is fixed what becomes of the query for each page, all that is left to the other side is which
page in flight is answered next. The ways in which a flight can go are a relation here, from the
pages that are answered to the failure that ends the flight, if one does. Every delivery takes one
of these ways, and each of them is that of some delivery. So what is said of every way is said of
every delivery, and the other way round.
-/

namespace SocialMigration

open scoped List

namespace Network

variable {World : Type}

/-- What becomes of the query for each of some pages is fixed, whatever happened before. -/
def Fixes (network : Network (StateM World)) (account method : Text) (pages : List Page)
    (answer : Page → Except Failure Json) : Prop :=
  ∀ page ∈ pages, ∀ world,
    ((network.ask (page.query account method)).run world).1.outcome = answer page

theorem Fixes.subset {network : Network (StateM World)} {account method : Text}
    {pages fewer : List Page} {answer : Page → Except Failure Json}
    (fixes : network.Fixes account method pages answer) (within : fewer ⊆ pages) :
    network.Fixes account method fewer answer :=
  fun page member => fixes page (within member)

end Network

namespace Page

/-- The query for a page is answered with a list. -/
def IsList (answer : Except Failure Json) : Prop :=
  ∃ items, answer = .ok (.arr items)

/-- Pages are answered with lists, and the page after them is answered with a failure. -/
structure FailAt (account method : Text) (answer : Page → Except Failure Json) (good : List Page)
    (page : Page) (failure : Failure) : Prop where
  lists : ∀ other ∈ good, IsList (answer other)
  fails : Fails account method page (answer page) failure

/-- A session has got what was made of the queries for some pages, in this order, after another
session. -/
def Received (account method : Text) (answer : Page → Except Failure Json) (session : Session)
    (pages : List Page) (later : Session) : Prop :=
  ∃ trace, session.Logs trace later ∧
    trace.filterMap Event.answer? = pages.map fun page => (page.query account method, answer page)

variable {account method : Text} {answer : Page → Except Failure Json} {page : Page}
  {good pages pages' : List Page} {failure failure' : Failure} {session later latest : Session}

theorem Fails.not_isList {outcome : Except Failure Json}
    (fails : Fails account method page outcome failure) : ¬ IsList outcome := by
  rintro ⟨items, same⟩
  cases fails with
  | error => cases same
  | notAList other =>
      cases same
      exact other items rfl

/-- An answer fails with one failure only. -/
theorem Fails.unique {outcome : Except Failure Json}
    (fails : Fails account method page outcome failure)
    (fails' : Fails account method page outcome failure') : failure = failure' := by
  cases fails <;> cases fails' <;> rfl

theorem FailAt.nil (fails : Fails account method page (answer page) failure) :
    FailAt account method answer [] page failure :=
  ⟨by simp, fails⟩

theorem FailAt.cons {other : Page} (list : IsList (answer other))
    (failAt : FailAt account method answer good page failure) :
    FailAt account method answer (other :: good) page failure :=
  ⟨List.forall_mem_cons.mpr ⟨list, failAt.lists⟩, failAt.fails⟩

theorem received_nil {trace : List Event} (logs : session.Logs trace later)
    (silent : trace.filterMap Event.answer? = []) :
    Received account method answer session [] later :=
  ⟨trace, logs, silent⟩

theorem received_answered {outcome : Except Failure Json} (same : answer page = outcome)
    (logs : session.Logs [.answered (page.query account method) outcome] later) :
    Received account method answer session [page] later :=
  ⟨_, logs, by rw [List.map_singleton, same]; rfl⟩

theorem Received.append (front : Received account method answer session pages later)
    (back : Received account method answer later pages' latest) :
    Received account method answer session (pages ++ pages') latest := by
  rcases front with ⟨trace, logs, answers⟩
  rcases back with ⟨trace', logs', answers'⟩
  exact ⟨_, logs.append logs', by rw [List.filterMap_append, answers, answers', List.map_append]⟩

end Page

namespace Flight

section

variable (account method : Text) (limit : Nat) (answer : Page → Except Failure Json)

/-- The ways in which a flight can go: the pages that are answered, in this order, and the failure
that ends the flight, if one does. Any page in flight may be answered next, and after each answer
the pages for which a slot is free are asked for. More pages may be answered after the one whose
answer ends the flight. -/
inductive Resolves : Flight → List Page → Option Failure → Prop where
  | nothing {flight : Flight} :
      (flight.launch limit).inFlight = [] → Resolves flight [] none
  | fails {flight : Flight} {page : Page} {failure : Failure} {late : List Page}
      {events : List Event} :
      page ∈ (flight.launch limit).inFlight →
      Page.Fails account method page (answer page) failure →
      Course account method limit ((flight.launch limit).release page)
        (late.map fun page => (page, answer page)) events →
      Resolves flight (page :: late) (some failure)
  | next {flight : Flight} {page : Page} {items : List Json} {rest : List Page}
      {verdict : Option Failure} :
      page ∈ (flight.launch limit).inFlight → answer page = .ok (.arr items) →
      Resolves ((flight.launch limit).land page items) rest verdict →
      Resolves flight (page :: rest) verdict

end

variable {account method : Text} {limit : Nat} {answer : Page → Except Failure Json}
  {flight : Flight} {pages : List Page} {failure : Failure}

/-- If nothing ends a flight, every page is answered, and each with a list. -/
theorem Resolves.of_none (positive : 0 < limit)
    (resolves : Resolves account method limit answer flight pages none) :
    pages ~ flight.pending ∧ ∀ page ∈ pages, Page.IsList (answer page) := by
  generalize verdict_eq : (none : Option Failure) = verdict at resolves
  induction resolves with
  | nothing idle =>
      rcases idle_of_launch positive idle with ⟨waiting, inFlight⟩
      simp [pending, waiting, inFlight]
  | fails => cases verdict_eq
  | @next flight page items rest verdict member list _ ih =>
      rcases ih verdict_eq with ⟨perm, lists⟩
      constructor
      · calc page :: rest
          _ ~ page :: ((flight.launch limit).land page items).pending := perm.cons page
          _ ~ (flight.launch limit).pending := pending_land _ member
          _ = flight.pending := pending_launch limit flight
      · exact List.forall_mem_cons.mpr ⟨⟨items, list⟩, lists⟩

/-- If a failure ends a flight, it is that of the first page that is not answered with a list. -/
theorem Resolves.of_some
    (resolves : Resolves account method limit answer flight pages (some failure)) :
    pages <+~ flight.pending ∧ ∃ good page late, pages = good ++ page :: late ∧
      Page.FailAt account method answer good page failure := by
  generalize verdict_eq : some failure = verdict at resolves
  induction resolves with
  | nothing => cases verdict_eq
  | @fails flight page failure' late events member fails course =>
      cases verdict_eq
      refine ⟨?_, [], page, late, rfl, .nil fails⟩
      have within := course.within
      rw [List.map_map, show Prod.fst ∘ (fun page => (page, answer page)) = id from rfl,
        List.map_id] at within
      rw [← pending_launch limit]
      exact ((List.subperm_cons page).mpr within).trans (pending_release member).subperm
  | @next flight page items rest verdict member list _ ih =>
      rcases ih verdict_eq with ⟨within, good, failed, late, rfl, failAt⟩
      refine ⟨?_, page :: good, failed, late, rfl, failAt.cons ⟨items, list⟩⟩
      rw [← pending_launch limit]
      exact ((List.subperm_cons page).mpr within).trans (pending_land _ member).subperm

end Flight

namespace Page

variable {World : Type} {source : Source (StateM World)} {session later : Session} {world : World}
  {answer : Page → Except Failure Json} {limit : Nat} {flight : Flight} {order : List Nat}

/-- Pages that are asked for do not bring answers by themselves. -/
theorem received_asking (account method : Text) (answer : Page → Except Failure Json)
    (session : Session) (pages : List Page) :
    Received account method answer session [] (session.extend (asking account method pages)) :=
  received_nil (logs_asking account method session pages) filterMap_answer?_asking

/-- What a drained flight has heard is the fixed answers of some of its pages. -/
theorem Drained.received
    (fixed : source.network.Fixes source.account source.method flight.pending answer)
    (drained : Drained source limit flight session later) :
    ∃ late events, flight.Course source.account source.method limit
        (late.map fun page => (page, answer page)) events ∧
      Received source.account source.method answer session late later := by
  rcases drained with ⟨answered, events, course, truthful, logs⟩
  have same : answered = (answered.map Prod.fst).map fun page => (page, answer page) := by
    rw [List.map_map]
    refine (List.map_id answered).symm.trans (List.map_congr_left fun heard member => ?_)
    rcases truthful heard member with ⟨world, given⟩
    have inside := course.within.subset (List.mem_map_of_mem member)
    exact Prod.ext rfl (given.symm.trans (fixed heard.1 inside world))
  rw [same] at course
  refine ⟨answered.map Prod.fst, events, course, events, logs, ?_⟩
  rw [course.answers, List.map_map]
  rfl

variable [Platform] [Platform.PrintsAll]

/-- A page whose answer is fixed is received with it. -/
theorem receive_fixed {page : Page}
    (fixed : source.network.Fixes source.account source.method [page] answer) :
    Run.Ends (page.receive source) session world
      (fun items later _ => answer page = .ok (.arr items) ∧
        Received source.account source.method answer session [page] later)
      (fun failure later _ => Fails source.account source.method page (answer page) failure ∧
        Received source.account source.method answer session [page] later) := by
  have same := fixed page List.mem_cons_self world
  apply (receive_outcome page).mono
  · intro items later _ ended
    rcases ended with ⟨outcome, logs⟩
    have list := same.symm.trans outcome
    exact ⟨list, received_answered list logs⟩
  · intro failure later _ ended
    rcases ended with ⟨outcome, given, fails, logs⟩
    have answered := same.symm.trans given
    exact ⟨answered ▸ fails, received_answered answered logs⟩

/-- Every delivery takes one of the ways in which a flight can go. -/
theorem fly_resolves (order : List Nat) (late : Nat) {answers : Nat}
    (enough : flight.pending.length ≤ answers)
    (fixed : source.network.Fixes source.account source.method flight.pending answer) :
    Run.Ends (fly source limit order late answers flight) session world
      (fun _ later _ => ∃ pages,
        flight.Resolves source.account source.method limit answer pages none ∧
        Received source.account source.method answer session pages later)
      (fun failure later _ => ∃ pages,
        flight.Resolves source.account source.method limit answer pages (some failure) ∧
        Received source.account source.method answer session pages later) := by
  induction answers generalizing flight session world with
  | zero =>
      have idle : (flight.launch limit).pending = [] := by
        rw [Flight.pending_launch]
        exact List.eq_nil_of_length_eq_zero (Nat.le_zero.mp enough)
      exact ⟨[], .nothing (List.append_eq_nil_iff.mp idle).1,
        received_nil (.refl session) rfl⟩
  | succ answers ih =>
      have asked := received_asking source.account source.method answer session
        (flight.starting limit)
      rw [← flight.pending_launch limit] at enough fixed
      rw [ends_fly_succ]
      cases next : (flight.launch limit).next? order with
      | none => exact ⟨[], .nothing (Flight.next?_eq_none next), asked⟩
      | some page =>
          have member := Flight.next?_mem next
          apply (receive_fixed (fixed.subset (by simpa using Flight.mem_pending member))).mono
          · intro items between after ended
            rcases ended with ⟨list, received⟩
            have left := (Flight.pending_land items member).length_eq
            rw [List.length_cons] at left
            apply (ih (by omega) (fixed.subset (Flight.pending_land_subset ..))).mono
            · intro _ later _ ended
              rcases ended with ⟨pages, resolves, received'⟩
              exact ⟨page :: pages, .next member list resolves,
                asked.append (received.append received')⟩
            · intro failure later _ ended
              rcases ended with ⟨pages, resolves, received'⟩
              exact ⟨page :: pages, .next member list resolves,
                asked.append (received.append received')⟩
          · intro failure between after ended
            rcases ended with ⟨fails, received⟩
            refine (drain_ends order late _).mono ?_ (fun _ _ _ => False.elim)
            intro _ later _ drained
            rcases drained.received (fixed.subset (Flight.pending_release_subset ..)) with
              ⟨others, events, course, received'⟩
            exact ⟨page :: others, .fails member fails course,
              asked.append (received.append received')⟩

/-- Late answers come in the order in which their pages are listed. -/
theorem drain_of_course {late : List Page} {events : List Event}
    (course : flight.Course source.account source.method limit
      (late.map fun page => (page, answer page)) events)
    {earlier : List Nat} (apart : flight.Apart earlier)
    (fixed : source.network.Fixes source.account source.method flight.pending answer) :
    Run.Ends (drain source limit (earlier ++ late.map first) late.length flight) session world
      (fun _ later _ => Received source.account source.method answer session late later)
      (fun _ _ _ => False) := by
  induction late generalizing flight events earlier session world with
  | nil =>
      rw [List.length_nil, drain, ends_requestStarting]
      exact received_asking ..
  | cons page late ih =>
      have asked := received_asking source.account source.method answer session
        (flight.starting limit)
      rw [List.map_cons] at course
      cases course with
      | answered member rest =>
          rw [← flight.pending_launch limit] at fixed
          have apart := apart.launch limit
          rw [List.length_cons, ends_drain_succ, List.map_cons, apart.next? _ member]
          have drained (between : Session) (after : World)
              (received : Received source.account source.method answer
                (session.extend (asking source.account source.method (flight.starting limit)))
                [page] between) :
              Run.Ends (drain source limit (earlier ++ page.first :: late.map first) late.length
                ((flight.launch limit).release page)) between after
                (fun _ later _ =>
                  Received source.account source.method answer session (page :: late) later)
                (fun _ _ _ => False) := by
            have rest : Run.Ends _ between after _ _ := ih rest (apart.release member)
              (fixed.subset (Flight.pending_release_subset ..))
            rw [List.append_assoc] at rest
            exact rest.mono (fun _ _ _ received' => asked.append (received.append received'))
              fun _ _ _ => id
          exact (receive_fixed (fixed.subset (by simpa using Flight.mem_pending member))).mono
            (fun _ between after ended => drained between after ended.2)
            (fun _ between after ended => drained between after ended.2)

/-- Every way in which a flight can go is that of a delivery: of the one that lists the pages in the
order in which they are answered. -/
theorem fly_of_resolves {pages : List Page} {verdict : Option Failure}
    (resolves : flight.Resolves source.account source.method limit answer pages verdict)
    (fixed : source.network.Fixes source.account source.method flight.pending answer) :
    ∃ late, ∀ (earlier : List Nat) (answers : Nat) (session : Session) (world : World),
      pages.length ≤ answers → flight.Apart earlier →
      Run.Ends (fly source limit (earlier ++ pages.map Page.first) late answers flight) session
        world
        (fun _ later _ => verdict = none ∧
          Received source.account source.method answer session pages later)
        (fun failure later _ => verdict = some failure ∧
          Received source.account source.method answer session pages later) := by
  induction resolves with
  | @nothing flight idle =>
      refine ⟨0, fun earlier answers session world _ _ => ?_⟩
      cases answers with
      | zero => exact ⟨rfl, received_nil (.refl session) rfl⟩
      | succ answers =>
          rw [ends_fly_succ]
          cases next : (flight.launch limit).next? (earlier ++ [].map Page.first) with
          | none => exact ⟨rfl, received_asking ..⟩
          | some page =>
              have member := Flight.next?_mem next
              rw [idle] at member
              cases member
  | @fails flight page failure late events member fails course =>
      refine ⟨late.length, fun earlier answers session world enough apart => ?_⟩
      have asked := received_asking source.account source.method answer session
        (flight.starting limit)
      rcases Nat.exists_eq_add_of_le' enough with ⟨answers, rfl⟩
      rw [← flight.pending_launch limit] at fixed
      have apart := apart.launch limit
      rw [List.length_cons, ← Nat.add_assoc, ends_fly_succ, List.map_cons, apart.next? _ member]
      apply (receive_fixed (fixed.subset (by simpa using Flight.mem_pending member))).mono
      · intro items between after ended
        exact absurd ⟨items, ended.1⟩ fails.not_isList
      · intro failure' between after ended
        rcases ended with ⟨fails', received⟩
        have drained : Run.Ends _ between after _ _ := drain_of_course course
          (apart.release member) (fixed.subset (Flight.pending_release_subset ..))
        rw [List.append_assoc] at drained
        refine drained.mono ?_ (fun _ _ _ => False.elim)
        intro _ later _ received'
        exact ⟨congrArg some (fails.unique fails'), asked.append (received.append received')⟩
  | @next flight page items rest verdict member list _ ih =>
      rw [← flight.pending_launch limit] at fixed
      rcases ih (fixed.subset (Flight.pending_land_subset ..)) with ⟨late, flies⟩
      refine ⟨late, fun earlier answers session world enough apart => ?_⟩
      have asked := received_asking source.account source.method answer session
        (flight.starting limit)
      rcases Nat.exists_eq_add_of_le' enough with ⟨answers, rfl⟩
      have apart := apart.launch limit
      rw [List.length_cons, ← Nat.add_assoc, ends_fly_succ, List.map_cons, apart.next? _ member]
      apply (receive_fixed (fixed.subset (by simpa using Flight.mem_pending member))).mono
      · intro items' between after ended
        rcases ended with ⟨list', received⟩
        cases Json.arr.inj (Except.ok.inj (list.symm.trans list'))
        have flown := flies (earlier ++ [page.first]) (answers + rest.length) between after
          (Nat.le_add_left ..) (apart.land items member)
        rw [List.append_assoc] at flown
        apply flown.mono
        · intro _ later _ ended
          exact ⟨ended.1, asked.append (received.append ended.2)⟩
        · intro _ later _ ended
          exact ⟨ended.1, asked.append (received.append ended.2)⟩
      · intro failure later _ ended
        exact absurd ⟨items, list⟩ ended.1.not_isList

/-! ## Fetches -/

/-- Pages answered at once are all answered, in their order. -/
theorem receiveEach_fixed {pages : List Page}
    (fixed : source.network.Fixes source.account source.method pages answer) :
    Run.Ends (receiveEach source pages) session world
      (fun outcomes later _ =>
        Received source.account source.method answer session pages later ∧
        match joinOutcomes outcomes with
        | .ok _ => ∀ page ∈ pages, IsList (answer page)
        | .error failure => ∃ good page rest, pages = good ++ page :: rest ∧
          FailAt source.account source.method answer good page failure)
      (fun _ _ _ => False) := by
  induction pages generalizing session world with
  | nil => exact ⟨received_nil (.refl session) rfl, List.forall_mem_nil _⟩
  | cons page pages ih =>
      have asked : Received source.account source.method answer session [] _ :=
        received_nil (session.logs_extend [.asked (page.query source.account source.method)]) rfl
      simp only [receiveEach, request, Run.ends_bind, Run.ends_attempt, Run.ends_record]
      apply (receive_fixed (fixed.subset (by simp))).mono
      · intro items between after ended
        rcases ended with ⟨list, received⟩
        refine (ih (fixed.subset (List.subset_cons_self ..))).mono ?_ (fun _ _ _ => id)
        intro outcomes later _ ended
        rcases ended with ⟨received', joined⟩
        refine ⟨asked.append (received.append received'), ?_⟩
        rw [joinOutcomes]
        cases rest : joinOutcomes outcomes with
        | ok records =>
            rw [rest] at joined
            exact List.forall_mem_cons.mpr ⟨⟨items, list⟩, joined⟩
        | error failure =>
            rw [rest] at joined
            rcases joined with ⟨good, failed, others, rfl, failAt⟩
            exact ⟨page :: good, failed, others, rfl, failAt.cons ⟨items, list⟩⟩
      · intro failure between after ended
        rcases ended with ⟨fails, received⟩
        refine (ih (fixed.subset (List.subset_cons_self ..))).mono ?_ (fun _ _ _ => id)
        intro outcomes later _ ended
        exact ⟨asked.append (received.append ended.1), [], page, pages, rfl, .nil fails⟩

/-- A fetch succeeds only if every page is answered with a list, and fails only with the first
failure among the answers. -/
theorem fetch_fixed {limits : PageLimits} {total : Nat} (delivery : Delivery)
    (fixed : source.network.Fixes source.account source.method (all total limits.size) answer) :
    Run.Ends (fetch source limits delivery total) session world
      (fun _ _ _ => ∀ page ∈ all total limits.size, IsList (answer page))
      (fun failure later _ => ∃ good page rest,
        good ++ page :: rest <+~ all total limits.size ∧
        FailAt source.account source.method answer good page failure ∧
        Received source.account source.method answer session (good ++ page :: rest) later) := by
  cases delivery with
  | atOnce =>
      simp only [fetch, Run.ends_bind, Run.ends_ofExcept]
      refine (receiveEach_fixed fixed).mono ?_ (fun _ _ _ => False.elim)
      intro outcomes later _ ended
      rcases ended with ⟨received, joined⟩
      cases result : joinOutcomes outcomes with
      | ok records =>
          rw [result] at joined
          exact joined
      | error failure =>
          rw [result] at joined
          rcases joined with ⟨good, page, rest, split, failAt⟩
          exact ⟨good, page, rest, split ▸ .refl _, failAt, split ▸ received⟩
  | inOrder order late =>
      simp only [fetch, Run.ends_bind, Run.ends_pure]
      have whole : (Flight.ofPages (all total limits.size)).pending = all total limits.size := rfl
      apply (fly_resolves order late (whole ▸ Nat.le_refl _) (whole ▸ fixed)).mono
      · intro _ later _ ended
        rcases ended with ⟨pages, resolves, -⟩
        rcases resolves.of_none limits.inFlight_pos with ⟨perm, lists⟩
        intro page member
        exact lists page (perm.mem_iff.mpr member)
      · intro failure later _ ended
        rcases ended with ⟨pages, resolves, received⟩
        rcases resolves.of_some with ⟨within, good, page, late, rfl, failAt⟩
        exact ⟨good, page, late, within, failAt, received⟩

end Page

end SocialMigration
