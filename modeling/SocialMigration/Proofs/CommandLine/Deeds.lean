import SocialMigration.Proofs.CommandLine.Parts
import SocialMigration.Proofs.Page.Alike

/-!
# Deeds

What the program does around it: it posts requests, and for every call it makes a file, runs a
command and removes the file. A dry run does nothing but post requests, whatever they are answered.
-/

namespace SocialMigration

/-! ## Dry runs -/

namespace Migration

open Run (Keeps Prints)

variable [Platform] {World : Type} {kept : World → Prop} {host : Host (StateM World)}
  {config : Config}

theorem keeps_saveResults (folder : RunFolder) (results : Results) :
    Run.Keeps kept (saveResults folder results) := by
  apply Keeps.session.bind
  intro session
  apply (Keeps.update _).bind
  intro _
  apply (Keeps.ofExcept _).bind
  intro path
  exact (Prints.printBlock _).keeps

theorem keeps_advance (config : Config) (stage : Stage) :
    Run.Keeps kept (advance config stage : Run (StateM World) Unit) :=
  (Keeps.update _).bind fun _ => (Prints.printIf _ _).keeps

theorem keeps_refuseCount (account method : Text) (answer : Json) :
    Run.Keeps kept (refuseCount account method answer : Run (StateM World) Nat) :=
  (Keeps.requireWords _ _).bind fun _ => .ofExcept (.error _)

/-- The report only looks at what has been read. -/
theorem keeps_report (nodeCount accountCount : Nat) :
    Run.Keeps kept (report config nodeCount accountCount : Run (StateM World) Unit) := by
  apply (Prints.printAll _).keeps.bind
  intro _
  apply Keeps.session.bind
  intro session
  apply (Keeps.ofExcept _).bind
  intro total
  apply (Prints.print _).keeps.bind
  intro _
  apply (Prints.print _).keeps.bind
  intro _
  apply (Keeps.ofExcept _).bind
  intro totalNear
  apply (Prints.print _).keeps.bind
  intro _
  exact (Keeps.update _).bind fun _ => keeps_advance config _

section

variable (ask : ∀ query world, kept world → kept ((host.network.ask query).run world).2)
include ask

theorem keeps_require (verbose : Bool) (account : Text) (expected : Status) (label : Text) :
    Run.Keeps kept (Precondition.require host.network verbose account expected label) := by
  apply (Keeps.ask (ask _)).bind
  intro answer
  split
  · exact (Prints.printIf _ _).keeps.bind fun _ => .pure _
  · apply (Keeps.requireWords _ _).bind
    intro _
    exact (Prints.printIf _ _).keeps.bind fun _ => .ofExcept (.error _)

theorem keeps_checkPreconditions (config : Config) :
    Run.Keeps kept (checkPreconditions host.network config) := by
  apply (Prints.printAll _).keeps.bind
  intro _
  apply Keeps.bind
  · exact (Keeps.discard _ (keeps_require ask _ _ _ _)).bind fun _ =>
      .discard _ (keeps_require ask _ _ _ _)
  intro _
  apply (Prints.print _).keeps.bind
  intro _
  exact (Prints.print _).keeps.bind fun _ => keeps_advance config _

theorem keeps_reportedCount (account method : Text) :
    Run.Keeps kept (reportedCount host.network account method) := by
  apply (Keeps.ask (ask _)).bind
  intro answer
  split
  · split
    · exact .pure _
    · exact keeps_refuseCount _ _ _
  · exact keeps_refuseCount _ _ _

/-- Reading a collection keeps what queries keep. -/
theorem keeps_fetchCollection (config : Config) (heading : List Text) (countMethod method : Text)
    (delivery : Delivery) (limits : PageLimits) (keep : List Json → Session → Session)
    (line : List Json → Nat → Text) (stage : Stage) :
    Run.Keeps kept (do
      Run.printAll heading
      let count ← reportedCount host.network config.source countMethod
      let records ← Page.fetchAll (pageSource host.network config method) limits delivery count
      Run.update (keep records)
      Run.print (line records count)
      advance config stage
      return count) := by
  apply (Prints.printAll _).keeps.bind
  intro _
  apply (keeps_reportedCount ask _ _).bind
  intro count
  have pages (page : Page) : ∀ world, kept world →
      kept ((host.network.ask (page.query config.source method)).run world).2 :=
    ask _
  apply (Page.keeps_fetchAll pages _ _ _).bind
  intro records
  apply (Keeps.update _).bind
  intro _
  apply (Prints.print _).keeps.bind
  intro _
  exact (keeps_advance config stage).bind fun _ => .pure _

/-- The steps that read keep what queries keep. -/
theorem keeps_readAll : Run.Keeps kept (readAll host.network host.schedule config) := by
  apply (keeps_checkPreconditions ask config).bind
  intro _
  apply (Keeps.ofExcept _).bind
  intro limits
  apply Keeps.bind
  · exact keeps_fetchCollection ask config _ _ _ host.schedule.nodes limits
      (fun nodes session => { session with nodes }) _ .nodesFetched
  intro nodeCount
  apply Keeps.bind
  · exact keeps_fetchCollection ask config _ _ _ host.schedule.accounts limits
      (fun accounts session => { session with accounts }) _ .accountsFetched
  intro accountCount
  exact (keeps_report nodeCount accountCount).bind fun _ => .pure _

variable (dry : config.dryRun = true)
include dry

theorem keeps_steps : Run.Keeps kept (steps host.network host.schedule config) := by
  apply (keeps_readAll ask).bind
  intro count
  rw [if_pos dry]
  exact (Prints.printBlock _).keeps

theorem keeps_takeSteps : Run.Keeps kept (takeSteps host config) := by
  apply (keeps_steps ask dry).attempt.bind
  intro outcome
  cases outcome with
  | ok => exact .pure _
  | error failure =>
      apply Keeps.session.bind
      intro session
      apply (Keeps.update _).bind
      intro _
      exact (Prints.printBlock _).keeps.bind fun _ => .pure _

/-- A dry run keeps what queries and looks at the clock keep. -/
theorem keeps_run (now : ∀ world, kept world → kept (host.now.run world).2) (folder : RunFolder) :
    Run.Keeps kept (run host config folder) := by
  apply (Keeps.effect now).bind
  intro startedAt
  apply (keeps_takeSteps ask dry).bind
  intro said
  apply Keeps.session.bind
  intro session
  apply (Keeps.effect now).bind
  intro completedAt
  cases config.saveResults with
  | false => exact .pure _
  | true => exact (keeps_saveResults folder _).bind fun _ => .pure _

end

end Migration

/-! ## The record of deeds -/

namespace CommandLine

open Run (Keeps Prints)

/-- What a program does around it. -/
inductive Deed where
  | posted (request : Rpc.Request)
  | filed (text : Text)
  | ran (command : List Text)
  | removed (path : Text)
  deriving Repr

variable {World : Type}

/-- A host in whose worlds everything is recorded that is done, the latest last. -/
structure Host.Records (host : Host (StateM World)) (deeds : World → List Deed) : Prop where
  post : ∀ request world,
    deeds ((host.transport.post request).run world).2 = deeds world ++ [.posted request]
  file : ∀ text world,
    deeds ((host.machine.createFile text).run world).2 = deeds world ++ [.filed text]
  command : ∀ words world,
    deeds ((host.machine.run words).run world).2 = deeds world ++ [.ran words]
  removal : ∀ path world,
    deeds ((host.machine.removeFile path).run world).2 = deeds world ++ [.removed path]
  now : ∀ world, deeds (host.now.run world).2 = deeds world

/-- An action with a record of it. -/
def recorded {Value : Type} (action : StateM World Value) (made : List Deed) :
    StateM (World × List Deed) Value :=
  fun (world, deeds) => ((action.run world).1, (action.run world).2, deeds ++ made)

/-- A host with a record of what is done. -/
def Host.watched (host : Host (StateM World)) : Host (StateM (World × List Deed)) where
  environment := host.environment
  merge := host.merge
  transport :=
    { requested := host.transport.requested
      post := fun request => recorded (host.transport.post request) [.posted request] }
  machine :=
    { createFile := fun text => recorded (host.machine.createFile text) [.filed text]
      run := fun words => recorded (host.machine.run words) [.ran words]
      removeFile := fun path => recorded (host.machine.removeFile path) [.removed path] }
  schedule := host.schedule
  now := recorded host.now []

/-- Every host can be watched. -/
theorem Host.watched_records (host : Host (StateM World)) : host.watched.Records Prod.snd where
  post _ _ := rfl
  file _ _ := rfl
  command _ _ := rfl
  removal _ _ := rfl
  now _ := List.append_nil _

/-- From one record to another, nothing has been done but posting requests. -/
def OnlyPosts (before after : List Deed) : Prop :=
  ∃ made, after = before ++ made ∧ ∀ deed ∈ made, ∃ request, deed = .posted request

theorem OnlyPosts.refl (deeds : List Deed) : OnlyPosts deeds deeds :=
  ⟨[], (List.append_nil deeds).symm, by simp⟩

theorem OnlyPosts.post {before after : List Deed} (only : OnlyPosts before after)
    (request : Rpc.Request) : OnlyPosts before (after ++ [.posted request]) := by
  rcases only with ⟨made, rfl, posts⟩
  refine ⟨made ++ [.posted request], List.append_assoc .., ?_⟩
  rw [List.forall_mem_append]
  exact ⟨posts, by simp⟩

/-! ## Dry runs of the program -/

section Dry

variable {host : Host (StateM World)} {config : Config} {folder : RunFolder}
  {deeds : World → List Deed} {before : List Deed}

/-- A look at the clock is no deed. -/
theorem Host.Records.look (records : host.Records deeds) (world : World)
    (only : OnlyPosts before (deeds world)) : OnlyPosts before (deeds (host.now.run world).2) := by
  rwa [records.now]

variable [Platform]

/-- A query posts a request, or nothing if none can be sent. -/
theorem Host.Records.ask (records : host.Records deeds) (config : Config) (query : Query)
    (world : World) (only : OnlyPosts before (deeds world)) :
    OnlyPosts before (deeds (((host.network config).ask query).run world).2) := by
  simp only [Host.network, Rpc.Endpoint.ask]
  split
  · exact only
  split
  · exact only
  · rename_i url _
    let endpoint : Rpc.Endpoint := ⟨config.rpcUrl, config.timeout, config.debug⟩
    have posted := only.post (endpoint.request query url)
    rwa [← records.post _ world] at posted

/-- A dry run posts requests, and its overview does nothing. -/
theorem keeps_proceed (records : host.Records deeds) (dry : config.dryRun = true) :
    Keeps (fun world => OnlyPosts before (deeds world)) (proceed host (.ok (config, folder))) := by
  apply (Migration.keeps_run (records.ask config) dry records.look folder).bind
  intro results
  apply (Migration.prints_results results).keeps.bind
  intro _
  exact .pure _

end Dry

end CommandLine

end SocialMigration
