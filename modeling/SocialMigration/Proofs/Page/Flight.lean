import Mathlib.Data.List.Nodup
import Mathlib.Data.List.Perm.Subperm
import SocialMigration.Page.Fetch
import SocialMigration.Proofs.Run.Trace

/-!
# What a flight leaves behind

The pages in flight are answered one by one, and after each answer the next pages are asked for. A
flight that is not ended by a failure asks for pages in the order in which they were waiting, and as
many of them land as there are answers; none lands twice and none is lost.
-/

namespace SocialMigration

namespace Page

/-- Pages with their records, as the answers that brought them. -/
def answers (account method : Text) (landed : List (Page × List Json)) :
    List (Query × Except Failure Json) :=
  landed.map fun arrival => (arrival.1.query account method, .ok (.arr arrival.2))

/-- The events with which some pages are asked for. -/
def asking (account method : Text) (pages : List Page) : List Event :=
  pages.map fun page => .asked (page.query account method)

variable {account method : Text} {pages : List Page}

@[simp] theorem trace_asking :
    Event.trace (asking account method pages) = asking account method pages :=
  Event.trace_map pages fun _ => rfl

@[simp] theorem filterMap_query?_asking :
    (asking account method pages).filterMap Event.query? = pages.map (query account method) := by
  rw [asking, List.filterMap_map]
  exact congrFun List.filterMap_eq_map pages

@[simp] theorem filterMap_answer?_asking :
    (asking account method pages).filterMap Event.answer? = [] := by
  rw [asking, List.filterMap_map]
  exact List.filterMap_eq_nil_iff.mpr fun _ _ => rfl

theorem isAsked_of_mem_asking {event : Event} (member : event ∈ asking account method pages) :
    ∃ page, event = .asked (query account method page) := by
  rcases List.mem_map.mp member with ⟨page, -, rfl⟩
  exact ⟨page, rfl⟩

theorem isReadOf_of_mem_asking {event : Event} (member : event ∈ asking account method pages) :
    event.IsReadOf account method := by
  rcases List.mem_map.mp member with ⟨page, -, rfl⟩
  exact ⟨rfl, rfl⟩

end Page

namespace Flight

open scoped List

variable {World : Type} {network : Network (StateM World)} {account method : Text}

/-- What happens between two states of a flight: pages are asked for in the order in which they were
waiting, and pages in flight land with what the network answers. -/
structure Flown (network : Network (StateM World)) (account method : Text)
    (before after : Flight) (started : List Page) (landed : List (Page × List Json))
    (trace : List Event) : Prop where
  reads : ∀ event ∈ trace, event.IsReadOf account method
  waiting : before.waiting = started ++ after.waiting
  inFlight : (landed.map Prod.fst ++ after.inFlight).Perm (before.inFlight ++ started)
  arrived : after.arrived = landed.reverse ++ before.arrived
  asked : trace.filterMap Event.query? = started.map (Page.query account method)
  answered : trace.filterMap Event.answer? = Page.answers account method landed
  truthful : ∀ arrival ∈ landed,
    network.Answers (arrival.1.query account method) (.arr arrival.2)

theorem next?_mem {order : List Nat} {flight : Flight} {page : Page}
    (next : flight.next? order = some page) : page ∈ flight.inFlight := by
  rw [next?, Option.or_eq_some_iff] at next
  rcases next with listed | ⟨-, lowest⟩
  · rcases List.exists_of_findSome?_eq_some listed with ⟨first, -, found⟩
    exact List.mem_of_find?_eq_some found
  · exact List.mem_of_head? lowest

theorem next?_eq_none {order : List Nat} {flight : Flight} (next : flight.next? order = none) :
    flight.inFlight = [] := by
  rw [next?, Option.or_eq_none_iff] at next
  exact List.head?_eq_none_iff.mp next.2

/-- Pages for which a slot is free are asked for. -/
theorem flown_launch (network : Network (StateM World)) (account method : Text) (limit : Nat)
    (flight : Flight) :
    Flown network account method flight (flight.launch limit) (flight.starting limit) []
      (Page.asking account method (flight.starting limit)) where
  reads _ := Page.isReadOf_of_mem_asking
  waiting := (List.take_append_drop ..).symm
  inFlight := by simp [launch]
  arrived := rfl
  asked := Page.filterMap_query?_asking
  answered := Page.filterMap_answer?_asking
  truthful := by simp

/-- A page in flight lands. -/
theorem flown_land {flight : Flight} {page : Page} {records : List Json}
    (member : page ∈ flight.inFlight)
    (truthful : network.Answers (page.query account method) (.arr records)) :
    Flown network account method flight (flight.land page records) [] [(page, records)]
      [.answered (page.query account method) (.ok (.arr records))] where
  reads := by simp [Event.IsReadOf, Page.query]
  waiting := rfl
  inFlight := by simpa [land, release] using (List.perm_cons_erase member).symm
  arrived := rfl
  asked := rfl
  answered := rfl
  truthful := by simpa using truthful

theorem Flown.append {first second third : Flight} {started started' : List Page}
    {landed landed' : List (Page × List Json)} {trace trace' : List Event}
    (front : Flown network account method first second started landed trace)
    (back : Flown network account method second third started' landed' trace') :
    Flown network account method first third (started ++ started') (landed ++ landed')
      (trace ++ trace') where
  reads := by
    intro event member
    exact (List.mem_append.mp member).elim (front.reads event) (back.reads event)
  waiting := by rw [front.waiting, back.waiting, List.append_assoc]
  inFlight := by
    rw [List.map_append, List.append_assoc, ← List.append_assoc first.inFlight]
    calc landed.map Prod.fst ++ (landed'.map Prod.fst ++ third.inFlight)
      _ ~ landed.map Prod.fst ++ (second.inFlight ++ started') := back.inFlight.append_left _
      _ = landed.map Prod.fst ++ second.inFlight ++ started' := (List.append_assoc ..).symm
      _ ~ first.inFlight ++ started ++ started' := front.inFlight.append_right _
  arrived := by rw [back.arrived, front.arrived, List.reverse_append, List.append_assoc]
  asked := by rw [List.filterMap_append, front.asked, back.asked, List.map_append]
  answered := by
    rw [List.filterMap_append, front.answered, back.answered, Page.answers, Page.answers,
      Page.answers, List.map_append]
  truthful := by
    intro arrival member
    exact (List.mem_append.mp member).elim (front.truthful arrival) (back.truthful arrival)

/-- If nothing is in flight after a launch, nothing was left to ask for. -/
theorem idle_of_launch {limit : Nat} (positive : 0 < limit) {flight : Flight}
    (idle : (flight.launch limit).inFlight = []) :
    flight.waiting = [] ∧ flight.inFlight = [] := by
  rw [launch, List.append_eq_nil_iff, starting, List.take_eq_nil_iff] at idle
  rcases idle with ⟨landed, full | empty⟩
  · rw [landed, List.length_nil] at full
    omega
  · exact ⟨empty, landed⟩

/-! ## Pages that have not been answered -/

/-- The pages of a flight that have not been answered. -/
def pending (flight : Flight) : List Page :=
  flight.inFlight ++ flight.waiting

variable {limit : Nat} {flight : Flight} {page : Page} {earlier : List Nat}

theorem pending_launch (limit : Nat) (flight : Flight) :
    (flight.launch limit).pending = flight.pending := by
  simp [pending, launch, starting]

theorem pending_release (member : page ∈ flight.inFlight) :
    page :: (flight.release page).pending ~ flight.pending :=
  (List.perm_cons_erase member).symm.append_right flight.waiting

theorem pending_land (records : List Json) (member : page ∈ flight.inFlight) :
    page :: (flight.land page records).pending ~ flight.pending :=
  pending_release member

theorem pending_release_subset (page : Page) (flight : Flight) :
    (flight.release page).pending ⊆ flight.pending :=
  List.append_subset.mpr
    ⟨fun _ member => List.mem_append_left _ (List.mem_of_mem_erase member),
      List.subset_append_right ..⟩

theorem pending_land_subset (page : Page) (records : List Json) (flight : Flight) :
    (flight.land page records).pending ⊆ flight.pending :=
  pending_release_subset page flight

theorem mem_pending (member : page ∈ flight.inFlight) : page ∈ flight.pending :=
  List.mem_append_left _ member

/-- The pages of a flight that have not been answered are told apart by their first indices, and
none of these has been listed earlier. -/
structure Apart (earlier : List Nat) (flight : Flight) : Prop where
  distinct : (flight.pending.map Page.first).Nodup
  unlisted : ∀ page ∈ flight.pending, page.first ∉ earlier

theorem Apart.launch (apart : flight.Apart earlier) (limit : Nat) :
    (flight.launch limit).Apart earlier := by
  have same := pending_launch limit flight
  exact ⟨same ▸ apart.distinct, same ▸ apart.unlisted⟩

/-- A page may be listed when it has been answered. -/
theorem Apart.release (apart : flight.Apart earlier) (member : page ∈ flight.inFlight) :
    (flight.release page).Apart (earlier ++ [page.first]) := by
  have rests := pending_release member
  have distinct := List.nodup_cons.mp ((rests.map Page.first).nodup_iff.mpr apart.distinct)
  refine ⟨distinct.2, fun other pending listed => ?_⟩
  rcases List.mem_append.mp listed with before | same
  · exact apart.unlisted other (rests.subset (List.mem_cons_of_mem _ pending)) before
  · exact distinct.1 (List.mem_singleton.mp same ▸ List.mem_map_of_mem pending)

theorem Apart.land (apart : flight.Apart earlier) (records : List Json)
    (member : page ∈ flight.inFlight) :
    (flight.land page records).Apart (earlier ++ [page.first]) :=
  ⟨(apart.release member).distinct, (apart.release member).unlisted⟩

/-- Pages listed earlier are not in flight any more, and so the page listed after them is next. -/
theorem Apart.next? (apart : flight.Apart earlier) (later : List Nat)
    (member : page ∈ flight.inFlight) :
    flight.next? (earlier ++ page.first :: later) = some page := by
  have passed : earlier.findSome?
      (fun first => flight.inFlight.find? fun other => other.first == first) = none := by
    rw [List.findSome?_eq_none_iff]
    intro first listed
    rw [List.find?_eq_none]
    intro other flying same
    exact apart.unlisted other (mem_pending flying) (eq_of_beq same ▸ listed)
  have found : flight.inFlight.find? (fun other => other.first == page.first) = some page := by
    cases lookup : flight.inFlight.find? fun other => other.first == page.first with
    | none => exact absurd (beq_self_eq_true page.first) (List.find?_eq_none.mp lookup page member)
    | some other =>
        have flying := mem_pending (List.mem_of_find?_eq_some lookup)
        have same : other.first = page.first := by simpa using List.find?_some lookup
        rw [List.inj_on_of_nodup_map apart.distinct flying (mem_pending member) same]
  rw [Flight.next?, List.findSome?_append, passed, Option.none_or, List.findSome?_cons, found,
    Option.some_or]

/-! ## Courses -/

/-- The courses that a flight can take, whatever the answers. The pages for which a slot is free are
asked for, and any page in flight is answered; then the same can happen again, or nothing more. Each
course comes with the pages that are answered and with its events. -/
inductive Course (account method : Text) (limit : Nat) :
    Flight → List (Page × Except Failure Json) → List Event → Prop where
  | unanswered {flight : Flight} :
      Course account method limit flight [] (Page.asking account method (flight.starting limit))
  | answered {flight : Flight} {page : Page} {outcome : Except Failure Json}
      {answered : List (Page × Except Failure Json)} {events : List Event} :
      page ∈ (flight.launch limit).inFlight →
      Course account method limit ((flight.launch limit).release page) answered events →
      Course account method limit flight ((page, outcome) :: answered)
        (Page.asking account method (flight.starting limit) ++
          .answered (page.query account method) outcome :: events)

variable {answered : List (Page × Except Failure Json)} {events : List Event}

/-- What has arrived does not show in the courses of a flight. -/
theorem Course.congr {other : Flight} (course : Course account method limit flight answered events)
    (waiting : other.waiting = flight.waiting) (inFlight : other.inFlight = flight.inFlight) :
    Course account method limit other answered events := by
  have starting (flight other : Flight) (waiting : other.waiting = flight.waiting)
      (inFlight : other.inFlight = flight.inFlight) :
      other.starting limit = flight.starting limit := by
    rw [Flight.starting, Flight.starting, waiting, inFlight]
  induction course generalizing other with
  | @unanswered flight =>
      rw [← starting flight other waiting inFlight]
      exact .unanswered
  | @answered flight page outcome answered events member _ ih =>
      have launched : (other.launch limit).inFlight = (flight.launch limit).inFlight := by
        rw [launch, launch, starting flight other waiting inFlight, inFlight]
      have left : (other.launch limit).waiting = (flight.launch limit).waiting := by
        rw [launch, launch, waiting, inFlight]
      rw [← starting flight other waiting inFlight]
      refine .answered (launched ▸ member) (ih left ?_)
      rw [release, release, launched]

theorem Course.reads (course : Course account method limit flight answered events) :
    ∀ event ∈ events, event.IsReadOf account method := by
  induction course with
  | unanswered => exact fun _ => Page.isReadOf_of_mem_asking
  | answered member _ ih =>
      rw [List.forall_mem_append, List.forall_mem_cons]
      exact ⟨fun _ => Page.isReadOf_of_mem_asking, ⟨rfl, rfl⟩, ih⟩

/-- The pages that are asked for are the first of those that wait. -/
theorem Course.asked (course : Course account method limit flight answered events) :
    ∃ started, started <+: flight.waiting ∧
      events.filterMap Event.query? = started.map (Page.query account method) := by
  induction course with
  | unanswered => exact ⟨_, List.take_prefix .., Page.filterMap_query?_asking⟩
  | @answered flight page outcome answered events member _ ih =>
      rcases ih with ⟨started, front, asked⟩
      refine ⟨flight.starting limit ++ started, ?_, ?_⟩
      · have waiting : flight.starting limit ++ (flight.launch limit).waiting = flight.waiting :=
          List.take_append_drop ..
        rw [← waiting]
        exact (List.prefix_append_right_inj _).mpr front
      · simp [List.filterMap_cons, Event.query?, asked]

/-- Every answer is that of a page that was in flight or waited, and none of them comes twice. -/
theorem Course.within (course : Course account method limit flight answered events) :
    answered.map Prod.fst <+~ flight.pending := by
  induction course with
  | unanswered => exact List.nil_subperm
  | answered member _ ih =>
      rw [← pending_launch limit]
      exact ((List.subperm_cons _).mpr ih).trans (pending_release member).subperm

theorem Course.answers (course : Course account method limit flight answered events) :
    events.filterMap Event.answer? =
      answered.map fun answer => (answer.1.query account method, answer.2) := by
  induction course with
  | unanswered => exact Page.filterMap_answer?_asking
  | answered member _ ih => simp [Event.answer?, ih]

end Flight

namespace Page

/-- How the answer to the query for a page fails: it is a failure itself, or no list. -/
inductive Fails (account method : Text) (page : Page) : Except Failure Json → Failure → Prop where
  | error (failure : Failure) : Fails account method page (.error failure) failure
  | notAList {answer : Json} : (∀ items, answer ≠ .arr items) →
      Fails account method page (.ok answer)
        (.query account method (.pageNotAList answer.kindName page.first))

variable {World : Type} {source : Source (StateM World)} {session between later : Session}
  {world : World} {limit : Nat} {order : List Nat} {late answers : Nat} {flight : Flight}
  {page : Page}

/-- A session has heard the answer to the query for a page, and nothing else. -/
def Hears (source : Source (StateM World)) (page : Page) (world : World)
    (session later : Session) : Prop :=
  ∃ outcome,
    ((source.network.ask (page.query source.account source.method)).run world).1.outcome =
      outcome ∧
    session.Logs [.answered (page.query source.account source.method) outcome] later

/-- A session has asked for and heard what a flight may after an answer that fails, as the network
answers. -/
def Drained (source : Source (StateM World)) (limit : Nat) (flight : Flight)
    (session later : Session) : Prop :=
  ∃ answered events, flight.Course source.account source.method limit answered events ∧
    (∀ answer ∈ answered, ∃ world,
      ((source.network.ask (answer.1.query source.account source.method)).run world).1.outcome =
        answer.2) ∧
    session.Logs events later

theorem logs_asking (account method : Text) (session : Session) (pages : List Page) :
    session.Logs (asking account method pages) (session.extend (asking account method pages)) := by
  have logs := session.logs_extend (asking account method pages)
  rwa [trace_asking] at logs

theorem drained_over (source : Source (StateM World)) (limit : Nat) (flight : Flight)
    (session : Session) :
    Drained source limit flight session
      (session.extend (asking source.account source.method (flight.starting limit))) :=
  ⟨[], _, .unanswered, List.forall_mem_nil _, logs_asking ..⟩

theorem Hears.drained (member : page ∈ (flight.launch limit).inFlight)
    (heard : Hears source page world
      (session.extend (asking source.account source.method (flight.starting limit))) between)
    (drained : Drained source limit ((flight.launch limit).release page) between later) :
    Drained source limit flight session later := by
  rcases heard with ⟨outcome, given, logs⟩
  rcases drained with ⟨answered, events, course, truthful, logs'⟩
  exact ⟨_, _, .answered member course, List.forall_mem_cons.mpr ⟨⟨world, given⟩, truthful⟩,
    (logs_asking ..).append (logs.append logs')⟩

/-! ## One answer -/

/-- Pages for which a slot is free are asked for, and nothing else happens. -/
theorem ends_requestStarting {returned : Unit → Session → World → Prop}
    {failed : Failure → Session → World → Prop} :
    Run.Ends (requestStarting source limit flight) session world returned failed ↔
      returned () (session.extend (asking source.account source.method (flight.starting limit)))
        world :=
  Run.ends_forM_record

variable [Platform]

/-- One more answer of a flight: the pages for which a slot is free are asked for, and the page that
is next is received. If that fails, so does the flight, after late answers. -/
theorem ends_fly_succ {returned : Flight → Session → World → Prop}
    {failed : Failure → Session → World → Prop} :
    Run.Ends (fly source limit order late (answers + 1) flight) session world returned failed ↔
      let asked := session.extend (asking source.account source.method (flight.starting limit))
      match (flight.launch limit).next? order with
      | none => returned (flight.launch limit) asked world
      | some page => Run.Ends (page.receive source) asked world
          (fun items later after => Run.Ends
            (fly source limit order late answers ((flight.launch limit).land page items)) later
            after returned failed)
          (fun failure later after => Run.Ends
            (drain source limit order late ((flight.launch limit).release page)) later after
            (fun _ => failed failure) failed) := by
  rw [fly, Run.ends_bind, ends_requestStarting]
  cases next : (flight.launch limit).next? order with
  | none => simp only [next, Run.ends_pure]
  | some page =>
      simp only [next, Run.ends_bind, Run.ends_attempt]
      rfl

/-- One more late answer of a flight. -/
theorem ends_drain_succ {returned : Unit → Session → World → Prop}
    {failed : Failure → Session → World → Prop} :
    Run.Ends (drain source limit order (late + 1) flight) session world returned failed ↔
      let asked := session.extend (asking source.account source.method (flight.starting limit))
      match (flight.launch limit).next? order with
      | none => returned () asked world
      | some page => Run.Ends (page.receive source) asked world
          (fun _ later after => Run.Ends
            (drain source limit order late ((flight.launch limit).release page)) later after
            returned failed)
          (fun _ later after => Run.Ends
            (drain source limit order late ((flight.launch limit).release page)) later after
            returned failed) := by
  rw [drain, Run.ends_bind, ends_requestStarting]
  cases next : (flight.launch limit).next? order with
  | none => simp only [next, Run.ends_pure]
  | some page => simp only [next, Run.ends_bind, Run.ends_discard, Run.ends_attempt]

/-! ## What is answered -/

variable [Platform.PrintsAll]

/-- A page that has been asked for is received with what the network makes of its query. -/
theorem receive_outcome (page : Page) :
    Run.Ends (page.receive source) session world
      (fun items later _ =>
        ((source.network.ask (page.query source.account source.method)).run world).1.outcome =
          .ok (.arr items) ∧
        session.Logs [.answered (page.query source.account source.method) (.ok (.arr items))]
          later)
      (fun failure later _ => ∃ outcome,
        ((source.network.ask (page.query source.account source.method)).run world).1.outcome =
          outcome ∧
        Fails source.account source.method page outcome failure ∧
        session.Logs [.answered (page.query source.account source.method) outcome] later) := by
  rw [receive, Run.ends_bind]
  apply (Run.await_outcome _).mono
  · intro answer later after ended
    rcases ended with ⟨outcome, logs⟩
    rw [Run.ends_bind, Run.ends_ofExcept]
    cases answer with
    | arr items =>
        simp only [records, Run.ends_bind, Run.ends_printIf, Run.ends_pure]
        exact ⟨outcome, logs.andLines _⟩
    | _ => exact ⟨_, outcome, .notAList (by simp), logs⟩
  · intro failure later _ ended
    rcases ended with ⟨outcome, logs⟩
    exact ⟨_, outcome, .error failure, logs⟩

/-- A page that has been asked for is answered with its records, or the answer fails. -/
theorem receive_ends (page : Page) :
    Run.Ends (page.receive source) session world
      (fun items later _ =>
        source.network.Answers (page.query source.account source.method) (.arr items) ∧
        session.Logs [.answered (page.query source.account source.method) (.ok (.arr items))]
          later)
      (fun failure later _ => source.network.Explains failure ∧ ∃ outcome,
        session.Logs [.answered (page.query source.account source.method) outcome] later) := by
  apply (receive_outcome page).mono
  · intro items later _ ended
    exact ⟨⟨world, ended.1⟩, ended.2⟩
  · intro failure later _ ended
    rcases ended with ⟨_, outcome, fails, logs⟩
    refine ⟨?_, _, logs⟩
    cases fails with
    | error failure => exact fun _ => .inl ⟨_, world, outcome⟩
    | notAList other => exact fun batch => by simp [Failure.isBatch] at batch

/-- A page that has been asked for is answered, whatever is made of the answer. -/
theorem receive_hears (page : Page) :
    Run.Ends (page.receive source) session world
      (fun _ later _ => Hears source page world session later)
      (fun _ later _ => Hears source page world session later) := by
  apply (receive_outcome page).mono
  · intro items later _ ended
    exact ⟨_, ended⟩
  · intro failure later _ ended
    rcases ended with ⟨outcome, given, -, logs⟩
    exact ⟨outcome, given, logs⟩

/-- A flight that is carried on after a failure drains, and does not fail again. -/
theorem drain_ends (order : List Nat) (late : Nat) (flight : Flight) :
    Run.Ends (drain source limit order late flight) session world
      (fun _ later _ => Drained source limit flight session later) (fun _ _ _ => False) := by
  induction late generalizing flight session world with
  | zero =>
      rw [drain, ends_requestStarting]
      exact drained_over source limit flight session
  | succ late ih =>
      rw [ends_drain_succ]
      cases next : (flight.launch limit).next? order with
      | none => exact drained_over source limit flight session
      | some page =>
          have member := Flight.next?_mem next
          apply (receive_hears page).mono
          · intro items between after heard
            exact (ih _).mono (fun _ _ _ => heard.drained member) (fun _ _ _ => id)
          · intro failure between after heard
            exact (ih _).mono (fun _ _ _ => heard.drained member) (fun _ _ _ => id)

/-- A flight goes on for a number of answers, or until nothing is left, unless an answer fails. -/
theorem fly_ends (positive : 0 < limit) (order : List Nat) (late answers : Nat)
    (flight : Flight) :
    Run.Ends (fly source limit order late answers flight) session world
      (fun last later _ => ∃ started landed trace,
        flight.Flown source.network source.account source.method last started landed trace ∧
        landed.length = min answers (flight.inFlight.length + flight.waiting.length) ∧
        session.Logs trace later)
      (fun failure later _ => source.network.Explains failure ∧ ∃ trace,
        (∀ event ∈ trace, event.IsReadOf source.account source.method) ∧
        session.Logs trace later) := by
  induction answers generalizing flight session world with
  | zero =>
      refine ⟨[], [], [], ⟨?_, rfl, ?_, rfl, rfl, rfl, ?_⟩, by simp, .refl session⟩ <;> simp
  | succ answers ih =>
      have launched := flight.flown_launch source.network source.account source.method limit
      have asked := logs_asking source.account source.method session (flight.starting limit)
      rw [ends_fly_succ]
      cases next : (flight.launch limit).next? order with
      | none =>
          rcases Flight.idle_of_launch positive (Flight.next?_eq_none next) with ⟨waiting, inFlight⟩
          exact ⟨_, _, _, launched, by simp [waiting, inFlight], asked⟩
      | some page =>
          have member := Flight.next?_mem next
          have left : (flight.launch limit).inFlight.length + (flight.launch limit).waiting.length
              = flight.inFlight.length + flight.waiting.length := by
            simp only [Flight.launch, Flight.starting, List.length_append, List.length_take,
              List.length_drop]
            omega
          have some := List.length_pos_of_mem member
          apply (receive_ends page).mono
          · intro items later after ended
            rcases ended with ⟨truthful, logs⟩
            have landed := Flight.flown_land member truthful
            apply (ih ((flight.launch limit).land page items)).mono
            · intro last latest _ ended
              rcases ended with ⟨started, more, trace, flown, count, logs'⟩
              refine ⟨_, _, _, launched.append (landed.append flown), ?_,
                asked.append (logs.append logs')⟩
              have erased := List.length_erase_of_mem member
              simp only [Flight.land, Flight.release] at count
              simp only [List.nil_append, List.singleton_append, List.length_cons, count]
              omega
            · intro failure latest _ ended
              rcases ended with ⟨explained, trace, reads, logs'⟩
              refine ⟨explained, _, ?_, asked.append (logs.append logs')⟩
              simp only [List.forall_mem_append]
              exact ⟨launched.reads, landed.reads, reads⟩
          · intro failure later after ended
            rcases ended with ⟨explained, outcome, logs⟩
            refine (drain_ends order late _).mono ?_ (fun _ _ _ => False.elim)
            intro _ latest _ drained
            rcases drained with ⟨answered, events, course, -, logs'⟩
            refine ⟨explained, _, ?_, asked.append (logs.append logs')⟩
            simp only [List.forall_mem_append, List.forall_mem_singleton]
            exact ⟨launched.reads, ⟨rfl, rfl⟩, course.reads⟩

end Page

end SocialMigration
