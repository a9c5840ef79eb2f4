import Mathlib
import SocialMigration.Migration.Basic
import SocialMigration.Proofs.RunFolder.Making

/-!
# What is left of earlier reports

Runs save their reports one after the other below one output directory. The report that is read
where a run has saved its own is that of the last run with the same folder, so it is still the first
one as long as no run with the same name has started in the same minute. Nothing warns of a run that
has: its folder is there, and a file can be written in the place of another.
-/

namespace SocialMigration

namespace RunFolder

open FileTree (Enters Grows Holds IsPart LeadsDown joinPath isTooLong)
open Migration (resultsFileName)

/-- What a run saves in its folder, which is not made yet. -/
structure Report where
  folder : RunFolder
  value : Json
  fresh : folder.current = none

namespace Report

/-- The text of a report. -/
def text (report : Report) : Text :=
  report.value.written .indented

/-- The files after a report has been saved, as far as that was possible. -/
def save (tree : FileTree) (report : Report) : FileTree :=
  (report.folder.save tree resultsFileName report.value).2.1

/-- The name of the folder of a report. -/
def name (report : Report) : Text :=
  folderName report.folder.start report.folder.name

/-- The path of a report. -/
def path (report : Report) : Text :=
  joinPath report.folder.path resultsFileName

/-- The files after the folder of a report has been made, as far as that was possible. -/
def made (tree : FileTree) (report : Report) : FileTree :=
  (report.folder.create tree).2.1

/-- What comes of saving a report: the path of its file, or what was wrong. -/
def outcome (tree : FileTree) (report : Report) : Except Failure Text :=
  (report.folder.save tree resultsFileName report.value).2.2

/-- The files after reports have been saved one after the other. -/
def saveAll (tree : FileTree) (reports : List Report) : FileTree :=
  reports.foldl save tree

/-- Of a report and later ones, the last in the folder of the first. -/
def last (first found : Report) (later : List Report) : Report :=
  later.foldl (fun found report => if Shares first.folder report.folder then report else found)
    found

end Report

/-- Nothing is linked below a trail. -/
def Unlinked (tree : FileTree) (trail : Trail) : Prop :=
  ∀ below target, below ≠ [] → tree.entry? (trail ++ below) ≠ some (.link target)

/-- A report stands in its folder below a trail, with a text. -/
structure Reported (tree : FileTree) (report : Report) (left : Nat) (trail : Trail) (text : Text) :
    Prop where
  holds : Holds tree report.folder.base report.name left trail
  directory : tree.entry? (trail ++ [report.name]) = some .directory
  down : LeadsDown resultsFileName
  noNull : 0 ∉ report.path
  short : isTooLong report.path = false
  written : tree.entry? (trail ++ [report.name, resultsFileName]) = some (.file text)

variable {tree grown after : FileTree} {first report : Report} {later : List Report}
  {base name text : Text} {left : Nat} {trail : Trail}

theorem isPart_resultsFileName : IsPart resultsFileName :=
  ⟨by decide, by decide, by decide⟩

/-! ## One report -/

theorem Report.grows_made (tree : FileTree) (report : Report) : Grows tree (report.made tree) :=
  grows_create report.folder tree

theorem Report.save_cases (tree : FileTree) (report : Report) :
    (∃ failure, report.outcome tree = .error failure) ∧ report.save tree = report.made tree ∨
      report.outcome tree = .ok report.path ∧
        (∃ left trail, Holds (report.made tree) report.folder.base report.name left trail) ∧
        (report.made tree).writeFile report.path report.text = .ok (report.save tree) :=
  RunFolder.save_cases report.fresh tree resultsFileName report.value

theorem Unlinked.grows (unlinked : Unlinked tree trail) (grows : Grows tree after) :
    Unlinked after trail :=
  fun below target some linked => unlinked below target some (grows.was linked (by simp))

theorem Unlinked.directory (unlinked : Unlinked tree trail)
    (holds : Holds tree base name left trail) :
    tree.entry? (trail ++ [name]) = some .directory := by
  rcases holds.inside with directory | ⟨target, linked⟩
  · exact directory
  · exact absurd linked (unlinked [name] target (by simp))

/-- Where nothing is linked, a report is written in its folder. -/
theorem Report.put_of_writeFile (holds : Holds tree report.folder.base report.name left trail)
    (unlinked : Unlinked tree trail)
    (written : tree.writeFile report.path text = .ok after) :
    after = tree.put (trail ++ [report.name, resultsFileName]) (.file text) ∧
      tree.entry? (trail ++ [report.name, resultsFileName]) ≠ some .directory ∧
      Reported after report left trail text := by
  have directory := unlinked.directory holds
  have enters := holds.enters.below holds.down (isPart_folderName _ _).noSlash directory
  rcases FileTree.writeFile_eq_ok_iff.mp written with ⟨there, located, opens, rfl⟩
  rcases FileTree.walk_of_locate located with ⟨noNull, -, short, -⟩
  have arrives := (enters.locate_joinPath isPart_resultsFileName noNull short).symm.trans located
  have down := isPart_resultsFileName.leadsDown_of_walk arrives
  have direct : ∀ target, tree.entry? (trail ++ [report.name, resultsFileName]) ≠
      some (.link target) := fun target => unlinked _ target (by simp)
  have split : trail ++ [report.name] ++ [resultsFileName] =
      trail ++ [report.name, resultsFileName] := List.append_assoc ..
  have same := arrives
  rw [FileTree.walk_singleton down (.inr (split ▸ direct)), split] at same
  obtain rfl := Except.ok.inj same
  have solid := opens.not_directory arrives
  rw [FileTree.trail_placeAt] at solid ⊢
  have below : trail ++ [report.name, resultsFileName] ≠ [] := by simp
  have apart : trail ++ [report.name] ≠ trail ++ [report.name, resultsFileName] := by simp
  have directory' : FileTree.entry? (tree.put (trail ++ [report.name, resultsFileName])
      (.file text)) (trail ++ [report.name]) = some .directory := by
    rw [FileTree.entry?_put below, if_neg apart, directory]
  refine ⟨rfl, solid, ⟨?_, directory', down, noNull, short, ?_⟩⟩
  · exact ⟨holds.enters.put below solid direct text, holds.down, holds.noNull, holds.short,
      .inl directory'⟩
  · rw [FileTree.entry?_put below, if_pos rfl]

/-! ## One report after another -/

theorem Unlinked.put {place : Trail} (unlinked : Unlinked tree trail) (some : place ≠ []) :
    Unlinked (tree.put place (.file text)) trail := by
  intro below target filled linked
  rw [FileTree.entry?_put some] at linked
  split at linked
  · cases linked
  · exact unlinked below target filled linked

namespace Reported

theorem locate_eq (reported : Reported tree first left trail text) (purpose : FileTree.Purpose) :
    tree.locate purpose first.path =
      .ok (.taken (trail ++ [first.name, resultsFileName]) (.file text)) := by
  have enters := reported.holds.enters.below reported.holds.down (isPart_folderName _ _).noSlash
    reported.directory
  have split : trail ++ [first.name] ++ [resultsFileName] =
      trail ++ [first.name, resultsFileName] := List.append_assoc ..
  rw [Report.path, RunFolder.path, ← Report.name,
    enters.locate_joinPath isPart_resultsFileName reported.noNull reported.short,
    FileTree.walk_singleton reported.down (.inr (by simp [split, reported.written])), split,
    FileTree.placeAt, reported.written]

theorem content? (reported : Reported tree first left trail text) :
    tree.content? first.path = some text := by
  rw [FileTree.content?, FileTree.found?_eq_some_iff.mpr (reported.locate_eq .target)]

theorem grows (reported : Reported tree first left trail text) (grows : Grows tree after) :
    Reported after first left trail text :=
  { reported with
    holds := ⟨grows.enters reported.holds.enters, reported.holds.down, reported.holds.noNull,
      reported.holds.short, .inl (grows.kept reported.directory)⟩
    directory := grows.kept reported.directory
    written := grows.kept reported.written }

/-- A report in another folder leaves a report as it is. -/
theorem put (reported : Reported tree first left trail text) (unlinked : Unlinked tree trail)
    (solid : tree.entry? (trail ++ [report.name, resultsFileName]) ≠ some .directory)
    (apart : report.name ≠ first.name) (other : Text) :
    Reported (tree.put (trail ++ [report.name, resultsFileName]) (.file other)) first left trail
      text := by
  have below : trail ++ [report.name, resultsFileName] ≠ [] := by simp
  have directory : FileTree.entry? (tree.put (trail ++ [report.name, resultsFileName])
      (.file other)) (trail ++ [first.name]) = some .directory := by
    rw [FileTree.entry?_put below, if_neg (by simp), reported.directory]
  have written : FileTree.entry? (tree.put (trail ++ [report.name, resultsFileName])
      (.file other)) (trail ++ [first.name, resultsFileName]) = some (.file text) := by
    rw [FileTree.entry?_put below, if_neg (by simpa using apart.symm), reported.written]
  have enters := reported.holds.enters.put below solid
    (fun target => unlinked [report.name, resultsFileName] target (by simp)) other
  exact ⟨⟨enters, reported.holds.down, reported.holds.noNull, reported.holds.short,
    .inl directory⟩, directory, reported.down, reported.noNull, reported.short, written⟩

/-- In the folder of a report that stands another can be saved. -/
theorem outcome_eq (reported : Reported tree first left trail text)
    (base : report.folder.base = first.folder.base) (named : report.name = first.name) :
    report.outcome tree = .ok report.path := by
  have folderPath : report.folder.path = first.folder.path := by
    rw [RunFolder.path, RunFolder.path, base, ← Report.name, ← Report.name, named]
  have path : report.path = first.path := by
    rw [Report.path, Report.path, folderPath]
  have made : tree.makeDirectories report.folder.path = (tree, .ok ()) := by
    rw [folderPath]
    exact reported.holds.makeDirectories (isPart_folderName _ _) reported.directory
  have located := reported.locate_eq .writing
  rw [← path] at located
  exact save_eq_ok report.fresh made located (FileTree.Place.isOpen_file _ _) report.value

theorem congr (reported : Reported tree report left trail text)
    (base : report.folder.base = first.folder.base) (named : report.name = first.name) :
    Reported tree first left trail text := by
  have path : report.path = first.path := by
    rw [Report.path, Report.path, RunFolder.path, RunFolder.path, base, ← Report.name,
      ← Report.name, named]
  rcases reported with ⟨holds, directory, down, noNull, short, written⟩
  exact ⟨base ▸ named ▸ holds, named ▸ directory, down, path ▸ noNull, path ▸ short,
    named ▸ written⟩

end Reported

/-- Saving a report replaces the one that stands in the same folder, and no other. -/
theorem Report.save_step (report : Report) (reported : Reported tree first left trail text)
    (unlinked : Unlinked tree trail) (base : report.folder.base = first.folder.base) :
    Unlinked (report.save tree) trail ∧
      Reported (report.save tree) first left trail
        (if report.name = first.name then report.text else text) := by
  have grows := report.grows_made tree
  rcases report.save_cases tree with
    ⟨⟨failure, failed⟩, same⟩ | ⟨-, ⟨left', trail', holds⟩, written⟩
  · have apart : report.name ≠ first.name := fun named =>
      nomatch failed.symm.trans (reported.outcome_eq base named)
    rw [if_neg apart, same]
    exact ⟨unlinked.grows grows, reported.grows grows⟩
  · have unlinked' := unlinked.grows grows
    have reported' := reported.grows grows
    rw [base] at holds
    obtain ⟨rfl, rfl⟩ := holds.enters.unique reported'.holds.enters
    rw [← base] at holds
    rcases Report.put_of_writeFile holds unlinked' written with ⟨same, solid, new⟩
    constructor
    · rw [same]
      exact unlinked'.put (by simp)
    · split
      · rename_i named
        exact new.congr base named
      · rename_i apart
        rw [same]
        exact reported'.put unlinked' solid apart report.text

/-- Of the reports that are saved in its folder, the last stands in the place of a report. -/
theorem Report.saveAll_reported {found : Report} (valid : first.folder.start.IsValid)
    (alike : ∀ report ∈ later, report.folder.base = first.folder.base ∧
      report.folder.start.IsValid)
    (unlinked : Unlinked tree trail) (reported : Reported tree first left trail found.text) :
    Reported (saveAll tree later) first left trail (first.last found later).text := by
  induction later generalizing tree found with
  | nil => exact reported
  | cons report later ih =>
      rw [List.forall_mem_cons] at alike
      rcases Report.save_step report reported unlinked alike.1.1 with ⟨unlinked', reported'⟩
      have same : report.name = first.name ↔ Shares first.folder report.folder :=
        eq_comm.trans (folderName_eq_iff valid alike.1.2)
      simp only [same, ← apply_ite Report.text] at reported'
      exact ih alike.2 unlinked' reported'

/-- A report that has been saved stands in its folder. -/
theorem Report.reported_of_outcome {path : Text} (saved : first.outcome tree = .ok path)
    (direct : ∀ left trail, Enters (first.made tree) first.folder.base left trail →
      Unlinked tree trail) :
    path = first.path ∧ ∃ left trail, Unlinked (first.save tree) trail ∧
      Reported (first.save tree) first left trail first.text := by
  rcases first.save_cases tree with ⟨⟨failure, failed⟩, -⟩ | ⟨done, ⟨left, trail, holds⟩, written⟩
  · exact nomatch failed.symm.trans saved
  · have unlinked := (direct left trail holds.enters).grows (first.grows_made tree)
    rcases Report.put_of_writeFile holds unlinked written with ⟨same, -, reported⟩
    refine ⟨Except.ok.inj (saved.symm.trans done), left, trail, ?_, reported⟩
    rw [same]
    exact unlinked.put (by simp)

theorem Report.last_eq_self {found : Report}
    (none : ∀ report ∈ later, ¬Shares first.folder report.folder) :
    first.last found later = found := by
  induction later generalizing found with
  | nil => rfl
  | cons report later ih =>
      rw [List.forall_mem_cons] at none
      rw [Report.last, List.foldl_cons, if_neg none.1]
      exact ih none.2

/-- What is read where a run has saved its report, after other runs have saved theirs below the same
directory, is the report of the last run with the same folder: one with a name that becomes the
same, started in the same minute. If there is none, the report is unchanged. -/
theorem content?_saveAll {path : Text} (saved : first.outcome tree = .ok path)
    (direct : ∀ left trail, Enters (first.made tree) first.folder.base left trail →
      Unlinked tree trail)
    (valid : first.folder.start.IsValid)
    (alike : ∀ report ∈ later, report.folder.base = first.folder.base ∧
      report.folder.start.IsValid) :
    (Report.saveAll (first.save tree) later).content? path =
        some (first.last first later).text ∧
      ((∀ report ∈ later, ¬Shares first.folder report.folder) →
        (Report.saveAll (first.save tree) later).content? path = some first.text) ∧
      ∀ report ∈ later, report.folder.path = first.folder.path ↔
        Shares first.folder report.folder := by
  rcases Report.reported_of_outcome saved direct with ⟨rfl, left, trail, unlinked, reported⟩
  have stands := (Report.saveAll_reported valid alike unlinked reported).content?
  refine ⟨stands, fun none => ?_, fun report listed => ?_⟩
  · rw [stands, Report.last_eq_self none]
  · exact path_eq_iff valid (alike report listed).2 (alike report listed).1

/-- The report of a run that starts at half past two on an autumn day, or some seconds or a minute
later. -/
def autumnReport (minute second : Nat) (succeeded : Bool) : Report where
  folder :=
    { base := "output", name := "run", retentionDays := 30,
      start := ⟨2026, 10, 18, 14, minute, second, 0⟩ }
  value := .bool succeeded
  fresh := rfl

/-- The path of the folder of such runs. -/
def autumnPath : Text := "output/20261018_1430_run"

theorem outcome_of_path (path : report.folder.path = autumnPath) :
    report.outcome ⟨[], []⟩ = .ok report.path := by
  have made : FileTree.makeDirectories ⟨[], []⟩ autumnPath =
      (⟨[(["output"], .directory), (["output", "20261018_1430_run"], .directory)], []⟩,
        .ok ()) := by
    cbv
  have located : FileTree.locate
      ⟨[(["output"], .directory), (["output", "20261018_1430_run"], .directory)], []⟩ .writing
      (joinPath autumnPath resultsFileName) =
      .ok (.free ["output", "20261018_1430_run", resultsFileName]) := by
    cbv
  rw [← path] at made located
  exact save_eq_ok report.fresh made located (FileTree.Place.isOpen_free _) report.value

theorem outcome_autumnReport :
    (autumnReport 30 5 false).outcome ⟨[], []⟩ = .ok (autumnReport 30 5 false).path :=
  outcome_of_path (by decide +kernel)

theorem unlinked_nothing (trail : Trail) : Unlinked ⟨[], []⟩ trail := by
  intro below target some
  simp [FileTree.entry?, some]

/-- The report of a failed run is kept when the run is taken up again a minute later. -/
theorem content?_saveAll_autumn :
    (Report.saveAll ((autumnReport 30 5 false).save ⟨[], []⟩) [autumnReport 31 0 true]).content?
      (autumnReport 30 5 false).path = some "false" := by
  have alike : ∀ report ∈ [autumnReport 31 0 true],
      report.folder.base = (autumnReport 30 5 false).folder.base ∧
        report.folder.start.IsValid := by
    rw [List.forall_mem_singleton]
    exact ⟨rfl, by decide⟩
  have apart : ∀ report ∈ [autumnReport 31 0 true],
      ¬Shares (autumnReport 30 5 false).folder report.folder := by
    rw [List.forall_mem_singleton]
    rintro ⟨minute, -⟩
    exact absurd minute (by decide)
  have valid : (autumnReport 30 5 false).folder.start.IsValid := by decide
  exact (content?_saveAll outcome_autumnReport (fun _ trail _ => unlinked_nothing trail)
    valid alike).2.1 apart

/-- The report of a failed run is lost when the run is taken up again in the same minute. -/
theorem report_replaced :
    (autumnReport 30 5 false).folder.start.parts < (autumnReport 30 59 true).folder.start.parts ∧
      ((autumnReport 30 5 false).save ⟨[], []⟩).content? (autumnReport 30 5 false).path =
        some "false" ∧
      ((autumnReport 30 59 true).save ((autumnReport 30 5 false).save ⟨[], []⟩)).content?
        (autumnReport 30 5 false).path = some "true" := by
  rcases Report.reported_of_outcome outcome_autumnReport (fun _ trail _ => unlinked_nothing trail)
    with ⟨-, left, trail, unlinked, reported⟩
  have again := (Report.save_step (autumnReport 30 59 true) reported unlinked rfl).2
  have named : (autumnReport 30 59 true).name = (autumnReport 30 5 false).name := by
    decide +kernel
  rw [if_pos named] at again
  exact ⟨by decide, reported.content?, again.content?⟩

end RunFolder

end SocialMigration
