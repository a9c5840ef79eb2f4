import SocialMigration.Proofs.Page.Flight
import SocialMigration.Proofs.Page.Slices

/-!
# What a fetch leaves behind

Whether pages are answered at once or one by one, a fetch that succeeds has asked for every page
once, in ascending order, each page was answered once with a list, and the records are these lists
joined in the order of the collection. The order of the answers does not show in them.
-/

namespace SocialMigration

namespace Page

open scoped List

variable {World : Type} {network : Network (StateM World)} {account method : Text}

/-- A trace in which every one of some pages is asked for and answered with a list. The arrivals are
the pages with their records, in the order of the pages. -/
structure Fetched (network : Network (StateM World)) (account method : Text) (pages : List Page)
    (arrivals : List (Page × List Json)) (trace : List Event) : Prop where
  reads : ∀ event ∈ trace, event.IsReadOf account method
  complete : arrivals.map Prod.fst = pages
  asked : trace.filterMap Event.query? = pages.map (query account method)
  answered : trace.filterMap Event.answer? ~ Page.answers account method arrivals
  truthful : ∀ arrival ∈ arrivals,
    network.Answers (arrival.1.query account method) (.arr arrival.2)

theorem fetched_nil : Fetched network account method [] [] [] where
  reads := by simp
  complete := rfl
  asked := rfl
  answered := .refl _
  truthful := by simp

theorem Fetched.cons {page : Page} {pages : List Page} {items : List Json}
    {arrivals : List (Page × List Json)} {trace : List Event}
    (answers : network.Answers (page.query account method) (.arr items))
    (rest : Fetched network account method pages arrivals trace) :
    Fetched network account method (page :: pages) ((page, items) :: arrivals)
      (.asked (page.query account method) ::
        .answered (page.query account method) (.ok (.arr items)) :: trace) where
  reads := by
    simp only [List.forall_mem_cons]
    exact ⟨⟨rfl, rfl⟩, ⟨rfl, rfl⟩, rest.reads⟩
  complete := congrArg (page :: ·) rest.complete
  asked := congrArg (page.query account method :: ·) rest.asked
  answered := rest.answered.cons _
  truthful := by
    simp only [List.forall_mem_cons]
    exact ⟨answers, rest.truthful⟩

/-- A list of pairs with different keys is what looking up its keys gives. -/
private theorem map_lookup {arrivals : List (Page × List Json)}
    (distinct : (arrivals.map Prod.fst).Nodup) :
    (arrivals.map Prod.fst).map (fun page => (page, (arrivals.lookup page).getD [])) =
      arrivals := by
  induction arrivals with
  | nil => rfl
  | cons arrival arrivals ih =>
      rcases List.nodup_cons.mp distinct with ⟨absent, rest⟩
      rw [List.map_cons, List.map_cons, List.lookup_cons_self]
      refine congrArg _ ((List.map_congr_left fun page member => ?_).trans (ih rest))
      have different : (page == arrival.1) = false :=
        beq_eq_false_iff_ne.mpr fun same => absent (same ▸ member)
      rw [List.lookup_cons, different]

/-- A flight in which all pages land fetches them. -/
theorem Fetched.of_flown {pages : List Page} (distinct : pages.Nodup) {last : Flight}
    {started : List Page} {landed : List (Page × List Json)} {trace : List Event}
    (flown : Flight.Flown network account method (.ofPages pages) last started landed trace)
    (count : landed.length = pages.length) :
    ∃ arrivals, Fetched network account method pages arrivals trace ∧
      last.joined pages = arrivals.flatMap Prod.snd := by
  have waiting : pages = started ++ last.waiting := flown.waiting
  have places : landed.map Prod.fst ++ last.inFlight ~ started := by
    simpa [Flight.ofPages] using flown.inFlight
  have total := congrArg List.length waiting
  have size := places.length_eq
  simp only [List.length_append, List.length_map] at total size
  have idle : last.inFlight = [] := List.eq_nil_of_length_eq_zero (by omega)
  have done : last.waiting = [] := List.eq_nil_of_length_eq_zero (by omega)
  rw [done, List.append_nil] at waiting
  subst waiting
  rw [idle, List.append_nil] at places
  have arrived : last.arrived = landed.reverse := by simpa [Flight.ofPages] using flown.arrived
  have keys : last.arrived.map Prod.fst ~ pages := by
    rw [arrived, List.map_reverse]
    exact (List.reverse_perm _).trans places
  have looked := map_lookup (keys.nodup_iff.mpr distinct)
  have same : pages.map (fun page => (page, (last.arrived.lookup page).getD [])) ~ landed := by
    have mapped := keys.symm.map fun page => (page, (last.arrived.lookup page).getD [])
    rw [looked] at mapped
    exact mapped.trans (by rw [arrived]; exact List.reverse_perm landed)
  refine ⟨pages.map fun page => (page, (last.arrived.lookup page).getD []), ?_, ?_⟩
  · exact {
      reads := flown.reads
      complete := by simp [Function.comp_def]
      asked := flown.asked
      answered := flown.answered ▸ (same.map _).symm
      truthful := fun arrival member => flown.truthful arrival (same.mem_iff.mp member) }
  · rw [Flight.joined, List.flatMap_map]

variable [Platform] [Platform.PrintsAll] {source : Source (StateM World)} {session : Session}
  {world : World}

/-- Pages answered at once, one after the other, in their order. -/
theorem receiveEach_ends (pages : List Page) :
    Run.Ends (receiveEach source pages) session world
      (fun outcomes later _ => ∃ trace,
        (∀ event ∈ trace, event.IsReadOf source.account source.method) ∧
        session.Logs trace later ∧
        match joinOutcomes outcomes with
        | .ok records => ∃ arrivals,
          Fetched source.network source.account source.method pages arrivals trace ∧
          records = arrivals.flatMap Prod.snd
        | .error failure => source.network.Explains failure)
      (fun _ _ _ => False) := by
  induction pages generalizing session world with
  | nil => exact ⟨[], by simp, .refl session, [], fetched_nil, rfl⟩
  | cons page pages ih =>
      have asked := session.logs_extend [.asked (page.query source.account source.method)]
      simp only [receiveEach, request, Run.ends_bind, Run.ends_attempt, Run.ends_record]
      apply (receive_ends page).mono
      · intro items later after ended
        rcases ended with ⟨answers, logs⟩
        refine ih.mono ?_ (fun _ _ _ => id)
        intro outcomes latest _ ended
        rcases ended with ⟨trace, reads, logs', joined⟩
        refine ⟨_, ?_, asked.append (logs.append logs'), ?_⟩
        · simp only [List.forall_mem_append, Event.trace_cons]
          exact ⟨by simp [Event.IsReadOf, query], by simp [Event.IsReadOf, query], reads⟩
        · rw [joinOutcomes]
          cases rest : joinOutcomes outcomes with
          | error failure =>
              rw [rest] at joined
              exact joined
          | ok records =>
              rw [rest] at joined
              rcases joined with ⟨arrivals, fetched, rfl⟩
              exact ⟨_, fetched.cons answers, rfl⟩
      · intro failure later after ended
        rcases ended with ⟨explained, outcome, logs⟩
        refine ih.mono ?_ (fun _ _ _ => id)
        intro outcomes latest _ ended
        rcases ended with ⟨trace, reads, logs', -⟩
        refine ⟨_, ?_, asked.append (logs.append logs'), explained⟩
        simp only [List.forall_mem_append, Event.trace_cons]
        exact ⟨by simp [Event.IsReadOf, query], by simp [Event.IsReadOf, query], reads⟩

/-- A fetch succeeds with the records of all pages, or fails after reads. -/
theorem fetch_ends (limits : PageLimits) (delivery : Delivery) (total : Nat) :
    Run.Ends (fetch source limits delivery total) session world
      (fun records later _ => ∃ arrivals trace,
        Fetched source.network source.account source.method (all total limits.size) arrivals
          trace ∧
        records = arrivals.flatMap Prod.snd ∧ session.Logs trace later)
      (fun failure later _ => source.network.Explains failure ∧ ∃ trace,
        (∀ event ∈ trace, event.IsReadOf source.account source.method) ∧
        session.Logs trace later) := by
  cases delivery with
  | atOnce =>
      simp only [fetch, Run.ends_bind, Run.ends_ofExcept]
      refine (receiveEach_ends _).mono ?_ (fun _ _ _ => False.elim)
      intro outcomes later _ ended
      rcases ended with ⟨trace, reads, logs, joined⟩
      cases result : joinOutcomes outcomes with
      | ok records =>
          rw [result] at joined
          rcases joined with ⟨arrivals, fetched, same⟩
          exact ⟨arrivals, trace, fetched, same, logs⟩
      | error failure =>
          rw [result] at joined
          exact ⟨joined, trace, reads, logs⟩
  | inOrder order late =>
      simp only [fetch, Run.ends_bind, Run.ends_pure]
      refine (fly_ends limits.inFlight_pos order late _ _).mono ?_ (fun _ _ _ => id)
      intro last later _ ended
      rcases ended with ⟨started, landed, trace, flown, count, logs⟩
      have landedAll : landed.length = (all total limits.size).length := by
        simpa [Flight.ofPages] using count
      rcases Fetched.of_flown (all_nodup limits.size_pos total) flown landedAll with
        ⟨arrivals, fetched, joined⟩
      exact ⟨arrivals, trace, fetched, joined, logs⟩

/-- A fetch of a collection of a reported size succeeds with the records of all pages, or fails
after reads. -/
theorem fetchAll_ends (limits : PageLimits) (delivery : Delivery) (total : Nat) :
    Run.Ends (fetchAll source limits delivery total) session world
      (fun records later _ => ∃ arrivals trace,
        Fetched source.network source.account source.method (all total limits.size) arrivals
          trace ∧
        records = arrivals.flatMap Prod.snd ∧ session.Logs trace later)
      (fun failure later _ => source.network.Explains failure ∧ ∃ trace,
        (∀ event ∈ trace, event.IsReadOf source.account source.method) ∧
        session.Logs trace later) := by
  rw [fetchAll, if_neg (by omega)]
  split
  · rename_i obstacle blocked
    refine ⟨?_, [], by simp, .refl session⟩
    cases obstacle <;> simp [Network.Explains, failureOfObstacle, Failure.isBatch]
  · exact fetch_ends limits delivery total

end Page

end SocialMigration
