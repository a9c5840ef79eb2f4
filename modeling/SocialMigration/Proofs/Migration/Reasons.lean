import SocialMigration.Migration.Steps
import SocialMigration.Proofs.Balance.Adding
import SocialMigration.Proofs.Config
import SocialMigration.Proofs.Migration.Reading
import SocialMigration.Proofs.Run.Reasons

/-!
# For what reasons a migration fails

The numbers that components refuse are refused with the configuration already, or are numbers that
an answer cannot be: so no component of a usable configuration refuses one. What is left to fail for
are the answers, the calls, collections too large to be listed, answers too deep to be quoted, and
lines that the output refuses. That the integers of answers are short is kept from page to page,
since a record with a longer one could not be quoted either.
-/

namespace SocialMigration

namespace Failure

/-- Whether a failure is that of a query or of a call. -/
def IsRemote : Failure → Prop
  | query .. | call .. => True
  | _ => False

section

variable [Platform] {failure : Failure}

/-- Whether a failure may stop the steps of a migration: a status or an answer is not as it has to
be, or too deep to be quoted as that; there is no total balance; there are too many pages to be
listed; a query or a call fails, the latter perhaps within a batch; or the output refuses a line. -/
def IsExpected : Failure → Prop
  | precondition .. | query .. | call .. | balance _ | arithmetic _ => True
  | range .progressionTooLong | noRoom => True
  | batch _ _ _ _ _ cause => cause.IsRemote
  | unworded fault => fault.flaw = .tooDeep
  | unprintable report => ∃ text, Platform.refusal? text = some report
  | _ => False

theorem IsRemote.isExpected (remote : failure.IsRemote) : failure.IsExpected := by
  cases failure <;> trivial

theorem isExpected_of_isRefusal (refusal : Run.IsRefusal failure) : failure.IsExpected := by
  rcases refusal with ⟨text, report, refused, rfl⟩
  exact ⟨text, refused⟩

/-- A failure that may stop the steps is not reported as a refused number. -/
theorem IsExpected.reportName_ne (expected : failure.IsExpected) :
    failure.reportName ≠ Text.ofString "ValueError" := by
  cases failure with
  | arithmetic fault => cases fault <;> decide
  | precondition | query | balance | call | batch | range | noRoom | unprintable =>
      simp only [reportName]
      decide
  | unworded fault =>
      have tooDeep : fault.flaw = .tooDeep := expected
      simp only [reportName, Unworded.reportName, tooDeep]
      decide
  | argument | unread | unremoved | setting | file | folderMissing | fieldless | foreign =>
      exact expected.elim

end

end Failure

namespace Network

variable {World : Type}

/-- A network of clients that raise nothing but failures of queries and calls, and that answer with
nothing but what is read from a text, where integers are short. -/
structure IsRemote (network : Network (StateM World)) : Prop where
  fails : ∀ failure, network.Fails failure → failure.IsRemote
  short : ∀ query answer, network.Answers query answer → answer.hasShortIntegers = true

theorem IsRemote.isExpected [Platform] {network : Network (StateM World)}
    (remote : network.IsRemote) {failure : Failure} (fails : network.Fails failure) :
    failure.IsExpected :=
  (remote.fails failure fails).isExpected

end Network

/-! ## Records with short integers -/

namespace Page

/-- Records whose integers are short. -/
def AreShort (records : List Json) : Prop :=
  (Json.arr records).hasShortIntegers = true

theorem areShort_append {first second : List Json} :
    AreShort (first ++ second) ↔ AreShort first ∧ AreShort second := by
  simp only [AreShort, Json.hasShortIntegers_arr, List.forall_mem_append]

end Page

/-- Whether the integers of all records that have arrived are short. -/
def Flight.IsShort (flight : Flight) : Prop :=
  ∀ arrival ∈ flight.arrived, Page.AreShort arrival.2

theorem Flight.isShort_ofPages (pages : List Page) : (Flight.ofPages pages).IsShort :=
  List.forall_mem_nil _

theorem Flight.IsShort.joined {flight : Flight} (short : flight.IsShort) (pages : List Page) :
    Page.AreShort (flight.joined pages) := by
  rw [Page.AreShort, Json.hasShortIntegers_arr, Flight.joined]
  intro record member
  rcases List.mem_flatMap.mp member with ⟨page, -, inside⟩
  cases found : flight.arrived.lookup page with
  | none =>
      rw [found] at inside
      cases inside
  | some records =>
      rw [found] at inside
      rcases List.lookup_eq_some_iff.mp found with ⟨before, after, same, -⟩
      have arrived := short (page, records) (by simp [same])
      exact Json.hasShortIntegers_arr.mp arrived record inside

section

variable [Platform]

theorem Progression.obstacle?_ne_zeroStep {start limit step : Int} (nonzero : step ≠ 0) :
    obstacle? start limit step ≠ some .zeroStep := by
  simp only [obstacle?, beq_iff_eq, if_neg nonzero]
  split
  · simp
  · split <;> simp

open Failure (IsExpected)
open Run (Fulfils Meets FailsFor Prints)

variable {World : Type} {network : Network (StateM World)}

theorem Run.Prints.failsAsExpected {Value : Type} {part : Run (StateM World) Value}
    (prints : Prints part) : FailsFor IsExpected part :=
  prints.failsFor fun _ => Failure.isExpected_of_isRefusal

/-- A value with short integers can be too deep to be quoted, and nothing else. -/
theorem Run.failsAsExpected_requireWords {value : Json} (short : value.hasShortIntegers = true)
    (place : Place) :
    FailsFor IsExpected (Run.requireWords place value : Run (StateM World) Unit) := by
  apply Run.failsFor_requireWords
  intro fault found
  exact congrArg Unworded.flaw (Place.eq_tooDeep_of_unworded? short found)

/-! ## Pages -/

namespace Page

theorem joinOutcomes_fulfils {outcomes : List (Except Failure (List Json))}
    (each : ∀ outcome ∈ outcomes, Fulfils AreShort IsExpected outcome) :
    Fulfils AreShort IsExpected (joinOutcomes outcomes) := by
  induction outcomes with
  | nil => exact Json.hasShortIntegers_arr.mpr (List.forall_mem_nil _)
  | cons outcome outcomes ih =>
      rcases List.forall_mem_cons.mp each with ⟨first, others⟩
      cases outcome with
      | error failure => exact first
      | ok items =>
          have rest := ih others
          rw [joinOutcomes]
          cases joined : joinOutcomes outcomes with
          | error failure =>
              rw [joined] at rest
              exact rest
          | ok records =>
              rw [joined] at rest
              exact areShort_append.mpr ⟨first, rest⟩

variable {source : Source (StateM World)} (remote : source.network.IsRemote)
include remote

theorem meets_receive (page : Page) : Meets AreShort IsExpected (page.receive source) := by
  apply (Run.meets_await (fun _ => remote.isExpected) _).bind
  intro answer answered
  have short := remote.short _ _ answered
  have listed : Fulfils AreShort IsExpected (page.records source answer) := by
    cases answer <;> first | exact short | trivial
  apply (Meets.ofExcept listed).bind
  intro items areShort
  exact (Prints.printIf _ _).failsAsExpected.bind fun _ => .pure areShort

/-- Pages that are answered at once bring short integers, or fail as is expected. -/
theorem meets_receiveEach (pages : List Page) :
    Meets (fun outcomes => ∀ outcome ∈ outcomes, Fulfils AreShort IsExpected outcome) IsExpected
      (receiveEach source pages) := by
  induction pages with
  | nil => exact .pure (List.forall_mem_nil _)
  | cons page pages ih =>
      have one : Meets AreShort IsExpected
          (do page.request source; page.receive source : Run (StateM World) (List Json)) :=
        (FailsFor.record _).bind fun _ => meets_receive remote page
      apply one.attempt.bind
      intro outcome first
      apply ih.bind
      intro outcomes others
      exact .pure (List.forall_mem_cons.mpr ⟨first, others⟩)

omit remote in
theorem failsFor_requestStarting (limit : Nat) (flight : Flight) :
    FailsFor IsExpected (requestStarting source limit flight) :=
  .forM _ fun _ => .record _

theorem failsFor_drain (limit : Nat) (order : List Nat) (late : Nat) (flight : Flight) :
    FailsFor IsExpected (drain source limit order late flight) := by
  induction late generalizing flight with
  | zero => exact failsFor_requestStarting limit flight
  | succ late ih =>
      apply (failsFor_requestStarting limit flight).bind
      intro _
      extract_lets launched
      cases launched.next? order with
      | none => exact FailsFor.pure ()
      | some page =>
          apply (FailsFor.discard _ (meets_receive remote page).attempt.failsFor).bind
          exact fun _ => ih _

/-- What has arrived stays short from answer to answer. -/
theorem meets_fly (limit : Nat) (order : List Nat) (late answers : Nat) {flight : Flight}
    (short : flight.IsShort) :
    Meets Flight.IsShort IsExpected (fly source limit order late answers flight) := by
  induction answers generalizing flight with
  | zero => exact .pure short
  | succ answers ih =>
      apply (failsFor_requestStarting limit flight).bind
      intro _
      extract_lets launched
      cases launched.next? order with
      | none => exact .pure short
      | some page =>
          apply (meets_receive remote page).attempt.bind
          intro outcome fulfils
          cases outcome with
          | ok items => exact ih (List.forall_mem_cons.mpr ⟨fulfils, short⟩)
          | error failure =>
              exact (failsFor_drain remote limit order late _).bind fun _ => .fail fulfils

theorem meets_fetch (limits : PageLimits) (delivery : Delivery) (total : Nat) :
    Meets AreShort IsExpected (fetch source limits delivery total) := by
  cases delivery with
  | atOnce =>
      apply (meets_receiveEach remote _).bind
      intro outcomes each
      exact .ofExcept (joinOutcomes_fulfils each)
  | inOrder order late =>
      apply (meets_fly remote _ order late _ (Flight.isShort_ofPages _)).bind
      intro flight short
      exact .pure (short.joined _)

/-- A natural number of records is not negative, and the size of a page is not zero. -/
theorem meets_fetchAll (limits : PageLimits) (delivery : Delivery) (total : Nat) :
    Meets AreShort IsExpected (fetchAll source limits delivery total) := by
  rw [fetchAll, if_neg (by omega)]
  have nonzero : (limits.size : Int) ≠ 0 := Int.natCast_ne_zero.mpr limits.size_pos.ne'
  split
  · rename_i obstacle found
    cases obstacle with
    | zeroStep => exact absurd found (Progression.obstacle?_ne_zeroStep nonzero)
    | uncountable => exact .fail trivial
    | noRoom => exact .fail trivial
  · exact meets_fetch remote limits delivery _

end Page

/-! ## Batches -/

namespace Batch

variable (remote : network.IsRemote)
include remote

theorem failsFor_commit (limits : BatchLimits) (target : Target) (total : Nat) (batch : Batch) :
    FailsFor IsExpected (batch.commit network limits target total) := by
  rw [commit]
  apply (FailsFor.record _).bind
  intro _
  extract_lets dispatch
  have dispatched : FailsFor IsExpected (dispatch ()) := by
    apply Run.failsFor_send
    · exact (Prints.printIf _ _).failsAsExpected
    · exact fun cause fails => .fail (remote.fails cause fails)
  cases target.kind with
  | some kind => exact (Prints.print _).failsAsExpected.bind fun _ => dispatched
  | none => exact dispatched

theorem failsFor_commitFrom (limits : BatchLimits) (target : Target) (total committed : Nat)
    (batches : List Batch) :
    FailsFor IsExpected (commitFrom network limits target total committed batches) := by
  induction batches generalizing committed with
  | nil => exact FailsFor.pure _
  | cons batch batches ih =>
      exact (failsFor_commit remote limits target total batch).bind fun _ => ih _

theorem failsFor_commitAll (limits : BatchLimits) (target : Target) (records : List Json)
    {start : Int} (nonneg : 0 ≤ start) :
    FailsFor IsExpected (commitAll network limits target records start) := by
  rw [commitAll, if_neg (by omega)]
  exact failsFor_commitFrom remote limits target _ _ _

end Batch

/-! ## The steps -/

namespace Migration

theorem failsFor_advance (config : Config) (stage : Stage) :
    FailsFor IsExpected (advance config stage : Run (StateM World) Unit) :=
  (FailsFor.update _).bind fun _ => (Prints.printIf _ _).failsAsExpected

/-- Nothing but the stage changes when one is reached. -/
theorem advance_reasons (config : Config) (stage : Stage) (session : Session) (world : World) :
    Run.Ends (advance config stage) session world
      (fun _ later _ => ({ session with stage } : Session).Logs [] later)
      (fun failure _ _ => failure.IsExpected) := by
  rw [advance, Run.ends_bind, Run.ends_update]
  apply (Prints.printIf _ _ _ _).mono
  · exact fun _ _ _ ended => ended.1
  · exact fun _ _ _ ended => Failure.isExpected_of_isRefusal ended.1

theorem failsFor_refuseCount (account method : Text) {answer : Json}
    (short : answer.hasShortIntegers = true) :
    FailsFor IsExpected (refuseCount account method answer : Run (StateM World) Nat) :=
  (Run.failsAsExpected_requireWords short _).bind fun _ => .fail trivial

variable {config : Config} (remote : network.IsRemote)
include remote

theorem failsFor_require (verbose : Bool) (account : Text) (expected : Status) (label : Text) :
    FailsFor IsExpected (Precondition.require network verbose account expected label) := by
  apply (Run.meets_ask (fun _ => remote.isExpected) _).bind
  intro answer answered
  split
  · exact (Prints.printIf _ _).failsAsExpected.bind fun _ => .pure trivial
  · apply (Run.failsAsExpected_requireWords (remote.short _ _ answered) _).bind
    intro _
    exact (Prints.printIf _ _).failsAsExpected.bind fun _ => .fail trivial

theorem failsFor_checkPreconditions (config : Config) :
    FailsFor IsExpected (checkPreconditions network config) := by
  apply (Prints.printAll _).failsAsExpected.bind
  intro _
  apply FailsFor.bind
  · apply FailsFor.bind (FailsFor.discard _ (failsFor_require remote _ _ _ _))
    intro _
    exact FailsFor.discard _ (failsFor_require remote _ _ _ _)
  intro _
  apply (Prints.print _).failsAsExpected.bind
  intro _
  apply (Prints.print _).failsAsExpected.bind
  intro _
  exact failsFor_advance config _

theorem failsFor_reportedCount (account method : Text) :
    FailsFor IsExpected (reportedCount network account method) := by
  apply (Run.meets_ask (fun _ => remote.isExpected) _).bind
  intro answer answered
  have short := remote.short _ _ answered
  split
  · split
    · exact FailsFor.pure _
    · exact failsFor_refuseCount _ _ short
  · exact failsFor_refuseCount _ _ short

/-- A collection is fetched with as many pages as its reported size asks for, none of which is
refused, and what is kept of it has short integers. -/
theorem fetchCollection_reasons (config : Config) (heading : List Text) (countMethod method : Text)
    (delivery : Delivery) (limits : PageLimits) (keep : List Json → Session → Session)
    (line : List Json → Nat → Text) (stage : Stage) (session : Session) (world : World) :
    Run.Ends (do
      Run.printAll heading
      let count ← reportedCount network config.source countMethod
      let records ← Page.fetchAll (pageSource network config method) limits delivery count
      Run.update (keep records)
      Run.print (line records count)
      advance config stage
      return count) session world
      (fun _ later _ => ∃ records earlier, Page.AreShort records ∧
        ({ keep records earlier with stage } : Session).Logs [] later)
      (fun failure _ _ => failure.IsExpected) := by
  apply (Prints.printAll _).failsAsExpected.ends_bind
  intro _ _ _ _
  apply (failsFor_reportedCount remote _ _).ends_bind
  intro count _ _ _
  have source : (pageSource network config method).network.IsRemote := remote
  apply (Page.meets_fetchAll source limits delivery count).ends_bind
  intro records short earlier after
  simp only [Run.ends_bind, Run.ends_update, Run.ends_pure]
  apply (Prints.print _ (keep records earlier) after).mono
  · rintro _ printed between ⟨logs, -⟩
    have staged := logs.update (fun session => { session with stage }) fun _ _ => rfl
    apply (advance_reasons config stage printed between).mono
    · exact fun _ _ _ logs' => ⟨records, earlier, short, staged.append logs'⟩
    · exact fun _ _ _ => id
  · exact fun _ _ _ ended => Failure.isExpected_of_isRefusal ended.1

theorem failsFor_fetchNodes (delivery : Delivery) (config : Config) (limits : PageLimits) :
    FailsFor IsExpected (fetchNodes network delivery config limits) := by
  intro session world
  apply (fetchCollection_reasons remote config _ _ _ delivery limits
    (fun nodes session => { session with nodes }) _ .nodesFetched session world).mono
  · exact fun _ _ _ _ => trivial
  · exact fun _ _ _ => id

/-- The accounts that are kept have short integers. -/
theorem fetchAccounts_reasons (delivery : Delivery) (config : Config) (limits : PageLimits)
    (session : Session) (world : World) :
    Run.Ends (fetchAccounts network delivery config limits) session world
      (fun _ later _ => Page.AreShort later.accounts) (fun failure _ _ => failure.IsExpected) := by
  apply (fetchCollection_reasons remote config _ _ _ delivery limits
    (fun accounts session => { session with accounts }) _ .accountsFetched session world).mono
  · rintro _ later _ ⟨records, earlier, short, logs⟩
    rwa [logs.accounts_eq]
  · exact fun _ _ _ => id

omit remote in
/-- A report of accounts with short integers has no total only for a reason that is expected. -/
theorem report_reasons (config : Config) (nodeCount accountCount : Nat) {session : Session}
    (short : Page.AreShort session.accounts) (world : World) :
    Run.Ends (report config nodeCount accountCount) session world (fun _ _ _ => True)
      (fun failure _ _ => failure.IsExpected) := by
  rw [report, Run.ends_bind]
  apply (Prints.printAll _ session world).mono
  · rintro _ printed between ⟨logs, -⟩
    rw [← logs.accounts_eq] at short
    rw [Run.ends_bind, Run.ends_session]
    apply FailsFor.bind _ _ printed between
    · apply FailsFor.ofExcept
      intro failure failed
      rcases mapError_eq_error_iff.mp failed with ⟨raised, summed, rfl⟩
      rcases Balance.sum_of_short (Json.hasShortIntegers_arr.mp short) summed with
        ⟨fault, rfl⟩ | ⟨cause, rfl, tooDeep⟩
      · trivial
      · exact tooDeep
    intro total
    apply (Prints.print _).failsAsExpected.bind
    intro _
    apply (Prints.print _).failsAsExpected.bind
    intro _
    apply FailsFor.bind
    · apply FailsFor.ofExcept
      intro failure failed
      rcases mapError_eq_error_iff.mp failed with ⟨fault, converted, rfl⟩
      trivial
    intro totalNear
    apply (Prints.print _).failsAsExpected.bind
    intro _
    apply (FailsFor.update _).bind
    intro _
    exact failsFor_advance config _
  · exact fun _ _ _ ended => Failure.isExpected_of_isRefusal ended.1

theorem failsFor_initializeNodeCount (config : Config) (nodeCount : Nat) :
    FailsFor IsExpected (initializeNodeCount network config nodeCount) := by
  apply (Prints.printAll _).failsAsExpected.bind
  intro _
  apply (Prints.print _).failsAsExpected.bind
  intro _
  apply Run.failsFor_send
  · exact FailsFor.bind (.ofExcept (by simp)) fun _ => failsFor_advance config _
  · intro failure fails
    exact FailsFor.bind (Meets.fail (remote.isExpected fails)) fun _ => failsFor_advance config _

/-- A collection is written with a start that is not refused, or up to a call that fails. -/
theorem failsFor_commitCollection (config : Config) (heading : List Text) (label : Text)
    (limits : BatchLimits) (target : Batch.Target) (records : Session → List Json) {start : Int}
    (nonneg : 0 ≤ start) (done : Nat → Session → Session) (stage : Stage) :
    FailsFor IsExpected (do
      Run.printAll heading
      printStart label start
      let session ← Run.session
      let committed ← Batch.commitAll network limits target (records session) start
      Run.update (done committed)
      advance config stage) := by
  apply (Prints.printAll _).failsAsExpected.bind
  intro _
  apply (Prints.printIf _ _).failsAsExpected.bind
  intro _
  apply FailsFor.session.bind
  intro session
  apply (Batch.failsFor_commitAll remote limits target (records session) nonneg).bind
  intro committed
  apply (FailsFor.update _).bind
  intro _
  exact failsFor_advance config stage

theorem failsFor_commitNodes (usable : config.isUsable) (limits : BatchLimits) :
    FailsFor IsExpected (commitNodes network config limits) :=
  failsFor_commitCollection remote config _ "node" limits _ (·.nodes)
    (Config.isUsable_iff.mp usable).nodesStart
    (fun committed session => { session with nodesCommitted := some committed }) .nodesCommitted

theorem failsFor_commitAccounts (usable : config.isUsable) (limits : BatchLimits) :
    FailsFor IsExpected (commitAccounts network config limits) :=
  failsFor_commitCollection remote config _ "account" limits _ (·.accounts)
    (Config.isUsable_iff.mp usable).accountsStart
    (fun committed session => { session with accountsCommitted := some committed })
    .accountsCommitted

theorem failsFor_readAll (schedule : Schedule) (usable : config.isUsable) :
    FailsFor IsExpected (readAll network schedule config) := by
  rcases PageLimits.ofSettings_ok usable with ⟨limits, fixed, -⟩
  apply (failsFor_checkPreconditions remote config).bind
  intro _
  rw [fixed]
  apply FailsFor.bind (.ofExcept (by simp))
  intro limits
  apply (failsFor_fetchNodes remote schedule.nodes config limits).bind
  intro nodeCount session world
  rw [Run.ends_bind]
  apply (fetchAccounts_reasons remote schedule.accounts config limits session world).mono
  · intro accountCount later after short
    rw [Run.ends_bind]
    exact report_reasons config nodeCount accountCount short after
  · exact fun _ _ _ => id

theorem failsFor_writeAll (usable : config.isUsable) (nodeCount : Nat) :
    FailsFor IsExpected (writeAll network config nodeCount) := by
  rcases BatchLimits.ofSettings_ok usable with ⟨limits, fixed, -⟩
  apply (failsFor_initializeNodeCount remote config nodeCount).bind
  intro _
  rw [fixed]
  apply FailsFor.bind (.ofExcept (by simp))
  intro limits
  apply (failsFor_commitNodes remote usable limits).bind
  intro _
  apply (failsFor_commitAccounts remote usable limits).bind
  intro _
  exact failsFor_advance config _

/-- The steps of a usable configuration fail for the reasons that are expected, and no others. -/
theorem failsFor_steps (schedule : Schedule) (usable : config.isUsable) :
    FailsFor IsExpected (steps network schedule config) := by
  apply (failsFor_readAll remote schedule usable).bind
  intro nodeCount
  split
  · exact (Prints.printBlock _).failsAsExpected
  · exact failsFor_writeAll remote usable nodeCount

end Migration

end

end SocialMigration
