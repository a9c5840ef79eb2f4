import SocialMigration.Proofs.FileTree.Faults
import SocialMigration.Proofs.Migration.Reasons
import SocialMigration.Proofs.Migration.Saving
import SocialMigration.Proofs.Settings.Literal

/-!
# No number is refused

A run of a usable configuration is never ended by a component that refuses a number. The one thing
that is refused as a value of the wrong kind is the path of the folder for its results, if that
holds a code point of zero; and that is noticed only when the steps are over.
-/

namespace SocialMigration

/-! ## The folder of a run -/

namespace RunFolder

variable {folder : RunFolder} {tree : FileTree} {fileName : Text} {value : Json} {failure : Failure}

theorem zero_not_mem_ofNat (n : Nat) : 0 ∉ Text.ofNat n := by
  have nonzero : ∀ c ∈ Text.ofNat n, c ≠ 0 := Text.forall_mem_ofNat n (by decide)
  exact fun inside => nonzero 0 inside rfl

theorem zero_not_mem_paddedNat (width n : Nat) : 0 ∉ Text.paddedNat width n := by
  simp only [Text.paddedNat, Text.padZeros, List.mem_append, List.mem_replicate, not_or]
  exact ⟨fun zeros => absurd zeros.2 (by decide), zero_not_mem_ofNat n⟩

theorem safe_ne_zero (c : CodePoint) : safe c ≠ 0 := by
  intro zero
  rw [safe] at zero
  split at zero
  · rename_i allowed
    subst zero
    exact absurd allowed (by decide +kernel)
  · exact absurd zero (by decide)

/-- The name of a folder holds no code point of zero, whatever the run is called. -/
theorem zero_not_mem_folderName (start : Moment) (run : Text) : 0 ∉ folderName start run := by
  have apart : (0 : CodePoint) ∉ Text.ofString "_" := by decide
  simp only [folderName, Moment.stamp, List.mem_append, List.mem_map, not_or]
  exact ⟨⟨⟨⟨⟨⟨⟨zero_not_mem_ofNat _, zero_not_mem_paddedNat _ _⟩, zero_not_mem_paddedNat _ _⟩,
    apart⟩, zero_not_mem_paddedNat _ _⟩, zero_not_mem_paddedNat _ _⟩, apart⟩,
    fun ⟨c, _, same⟩ => safe_ne_zero c same⟩

theorem zero_mem_base (inside : 0 ∈ folder.path) : 0 ∈ folder.base := by
  rcases FileTree.mem_joinPath inside with base | name | slash
  · exact base
  · exact absurd name (zero_not_mem_folderName _ _)
  · exact absurd slash (by decide)

theorem write_fault {path : Text} (current : folder.current = some path) (plain : 0 ∉ fileName)
    (failed : (folder.write tree fileName value).2 = .error failure) :
    ∃ fault, failure = .file fault ∧ (fault.kind = .nullInPath → 0 ∈ path) := by
  simp only [write, filePath, current] at failed
  split at failed
  · cases failed
  · rename_i fault unwritten
    cases failed
    refine ⟨fault, rfl, fun null => ?_⟩
    rcases FileTree.mem_joinPath (FileTree.null_of_writeFile unwritten null) with
      inside | name | slash
    · exact inside
    · exact absurd name plain
    · exact absurd slash (by decide)

theorem create_eq :
    folder.create tree = ({ folder with current := some folder.path },
      (tree.makeDirectories folder.path).1,
      ((tree.makeDirectories folder.path).2.mapError Failure.file).map fun () => folder.path) := by
  rw [create]

theorem create_fault (failed : (folder.create tree).2.2 = .error failure) :
    ∃ fault, failure = .file fault ∧ (fault.kind = .nullInPath → 0 ∈ folder.base) := by
  rw [create_eq] at failed
  cases unmade : (tree.makeDirectories folder.path).2 with
  | ok =>
      rw [unmade] at failed
      cases failed
  | error fault =>
      rw [unmade] at failed
      cases failed
      exact ⟨fault, rfl, fun null => zero_mem_base (FileTree.null_of_makeDirectories unmade null)⟩

/-- What is not saved in a new folder is at the fault of a path. -/
theorem save_fault (new : folder.current = none) (plain : 0 ∉ fileName)
    (failed : (folder.save tree fileName value).2.2 = .error failure) :
    ∃ fault, failure = .file fault ∧ (fault.kind = .nullInPath → 0 ∈ folder.base) := by
  have current : (folder.create tree).1.current = some folder.path := by rw [create_eq]
  rw [save, new] at failed
  rcases made : folder.create tree with ⟨opened, grown, _ | path⟩
  · rw [made] at failed
    cases failed
    exact create_fault (congrArg (·.2.2) made)
  · rw [made] at failed current
    rcases write_fault current plain failed with ⟨fault, same, null⟩
    exact ⟨fault, same, fun kind => zero_mem_base (null kind)⟩

end RunFolder

namespace Migration

theorem null_of_reportName {fault : FileTree.Fault}
    (refused : (Failure.file fault).reportName = Text.ofString "ValueError") :
    fault.kind = .nullInPath := by
  rw [Failure.reportName] at refused
  cases same : fault.kind with
  | nullInPath => rfl
  | _ =>
      rw [same] at refused
      exact absurd refused (by decide)

section

variable [Platform] {World : Type} {config : Config} {failure : Failure} {folder : RunFolder}
  {tree tree' : FileTree} {results results' : Results} {ended : Except Failure Results}

/-- The results that are handed back are those that the run has reached. -/
theorem Closes.results_eq (closes : Closes config folder tree results ended tree')
    (returned : ended = .ok results') : results' = results := by
  subst returned
  cases closes <;> rfl

/-- What keeps the results of a run from being handed back is a line that the output refuses, or the
path of their folder. -/
theorem Closes.refusal (new : folder.current = none)
    (closes : Closes config folder tree results ended tree') (failed : ended = .error failure) :
    Run.IsRefusal failure ∨ config.saveResults = true ∧
      ∃ fault, failure = .file fault ∧ (fault.kind = .nullInPath → 0 ∈ folder.base) := by
  subst failed
  cases closes with
  | untold wanted saved refused => exact .inl ⟨_, _, refused, rfl⟩
  | unsaved wanted failed =>
      exact .inr ⟨wanted, RunFolder.save_fault new (by decide) (congrArg Prod.snd failed)⟩

/-- If no component refuses a number, the steps of a run fail for an expected reason only. -/
theorem isExpected_of_stepsEnding {host : Host (StateM World)} {world : World}
    (usable : config.isUsable) (remote : host.network.IsRemote)
    (failed : (stepsEnding host config tree world).1 = .error failure) : failure.IsExpected := by
  have reasons := failsFor_steps remote host.schedule usable { tree } (host.now.run world).2
  rcases left : (Run.startFrom { tree } (steps host.network host.schedule config)).run
    (host.now.run world).2 with ⟨⟨outcome, later⟩, after⟩
  obtain rfl : outcome = .error failure := by rw [← failed, stepsEnding, left]
  exact reasons.of_run left

/-- A usable configuration over a network that fails with nothing but failures of queries and calls
and answers with short integers: its steps end, if they fail, for an expected reason, so that no
component refuses a number, and that is what results report. A run ends without results if the
output refuses a line, or if they are to be saved and the path of their folder does not allow it;
and that is reported as a wrong value only if the path has a code point of zero. -/
theorem run_refuses_no_number (host : Host (StateM World)) (start : Moment) (tree : FileTree)
    (world : World) (usable : config.isUsable) (remote : host.network.IsRemote) :
    let run := (ending host config (runFolder config start) tree world).1
    (∀ failure, (stepsEnding host config tree world).1 = .error failure →
      failure.IsExpected ∧ failure.reportName ≠ Text.ofString "ValueError") ∧
    (∀ results stop, run = .ok results → results.stop = some stop →
      stop.reportName ≠ Text.ofString "ValueError" ∧
        ∃ failure, (stepsEnding host config tree world).1 = .error failure ∧
          stop = ⟨failure.message, failure.reportName⟩) ∧
    ∀ failure, run = .error failure →
      Run.IsRefusal failure ∨ config.saveResults = true ∧
        ∃ fault, failure = .file fault ∧
          (failure.reportName = Text.ofString "ValueError" → 0 ∈ config.outputFolder) := by
  intro run
  constructor
  · intro failure failed
    have expected := isExpected_of_stepsEnding usable remote failed
    exact ⟨expected, expected.reportName_ne⟩
  rcases ending_cases host (runFolder config start) tree world with
    ⟨_, _, report, -, refused, -, ended⟩ |
    ⟨failure, stopped, results, outcome, -, -, reports, closes⟩
  · constructor
    · intro results stop returned
      exact nomatch ended.symm.trans returned
    · intro failure failed
      obtain rfl := Except.error.inj (ended.symm.trans failed)
      exact .inl ⟨_, report, refused, rfl⟩
  · constructor
    · intro results' stop returned stopped'
      obtain rfl := closes.results_eq returned
      rw [reports.stop] at stopped'
      rcases Option.map_eq_some_iff.mp stopped' with ⟨cause, rfl, rfl⟩
      have failed : (stepsEnding host config tree world).1 = .error cause := by
        rw [outcome, outcomeOf]
      have expected := isExpected_of_stepsEnding usable remote failed
      exact ⟨expected.reportName_ne, cause, failed, rfl⟩
    · intro failure failed
      rcases closes.refusal rfl failed with refusal | ⟨wanted, fault, rfl, null⟩
      · exact .inl refusal
      · exact .inr ⟨wanted, fault, rfl, fun refused => null (null_of_reportName refused)⟩

end

attribute [local instance] Platform.accepting Platform.printsAll_accepting

theorem mem_of_requestedSlice {records : List Json} {arguments : Option Json} {record : Json}
    (member : record ∈ Network.requestedSlice records arguments) : record ∈ records := by
  rw [Network.requestedSlice.eq_def] at member
  split at member
  · exact List.mem_of_mem_drop (List.mem_of_mem_take member)
  · cases member

theorem isRemote_pairwiseHost : pairwiseHost.network.IsRemote where
  fails := by
    intro failure fails
    rcases fails with ⟨query, world, ⟨⟩⟩ | ⟨call, ⟨_ | left⟩, ⟨⟩⟩
    trivial
  short := by
    intro query answer answers
    have nodes : ∀ record ∈ someNodes, record.hasShortIntegers = true := by decide
    have accounts : ∀ record ∈ someAccounts, record.hasShortIntegers = true := by decide
    rcases answers with ⟨world, ⟨⟩⟩
    unfold Network.ledgerAnswer
    split_ifs
    · rfl
    · rfl
    · decide
    · decide
    · exact Json.hasShortIntegers_arr.mpr fun record member =>
        nodes record (mem_of_requestedSlice member)
    · exact Json.hasShortIntegers_arr.mpr fun record member =>
        accounts record (mem_of_requestedSlice member)

/-- The small migration stopped in its third call: its failure is that of a batch. -/
theorem run_refuses_no_number_stopped :
    pairwise.isUsable ∧ pairwiseHost.network.IsRemote ∧
      ∃ results stop, (pairwiseEnding 2).1 = .ok results ∧ results.stop = some stop ∧
        stop.reportName ≠ Text.ofString "ValueError" := by
  have usable : pairwise.isUsable = true := by decide
  have named : (pairwiseEnding 2).1.toOption.map (fun results => results.stop.isSome) =
      some true := by decide
  rcases results_of_seen named with ⟨results, outcome, stops⟩
  rcases Option.isSome_iff_exists.mp stops with ⟨stop, stopped⟩
  have never := run_refuses_no_number pairwiseHost ⟨2024, 1, 1, 0, 0, 0, 0⟩ ⟨[], []⟩ 2 usable
    isRemote_pairwiseHost
  exact ⟨usable, isRemote_pairwiseHost, results, stop, outcome, stopped,
    (never.2.1 results stop outcome stopped).1⟩

/-- An outcome of whose failure something can be seen is that of a run that has failed. -/
theorem failure_of_seen {Seen : Type} {outcome : Except Failure Results} {view : Failure → Seen}
    {seen : Seen} (shown : (outcome.mapError view).map (fun _ => ()) = .error seen) :
    ∃ failure, outcome = .error failure ∧ view failure = seen := by
  cases outcome with
  | error failure => exact ⟨failure, rfl, Except.error.inj shown⟩
  | ok results => cases shown

/-- The small migration that is to save its results in a folder with an impossible path. -/
def unsaveable : Config :=
  { pairwise with saveResults := true, outputFolder := [0x6F, 0, 0x70] }

/-- A code point of zero in the path of the folder for its results ends a run that has otherwise
reached its end. -/
theorem unsaveable_refused :
    unsaveable.isUsable ∧ pairwiseHost.network.IsRemote ∧
      (stepsEnding pairwiseHost unsaveable ⟨[], []⟩ 4).1.isOk ∧
      ∃ failure, (ending pairwiseHost unsaveable
          (runFolder unsaveable ⟨2024, 1, 1, 0, 0, 0, 0⟩) ⟨[], []⟩ 4).1 = .error failure ∧
        failure.reportName = Text.ofString "ValueError" ∧
        failure.message = Text.ofString "embedded null byte" := by
  have finished : (stepsEnding pairwiseHost unsaveable ⟨[], []⟩ 4).1.isOk = true := by decide
  have refused : ((ending pairwiseHost unsaveable
      (runFolder unsaveable ⟨2024, 1, 1, 0, 0, 0, 0⟩) ⟨[], []⟩ 4).1.mapError
        fun failure => (failure.reportName, failure.message)).map (fun _ => ()) =
      .error (Text.ofString "ValueError", Text.ofString "embedded null byte") := by
    decide +kernel
  rcases failure_of_seen refused with ⟨failure, left, seen⟩
  rcases Prod.mk.inj seen with ⟨named, said⟩
  exact ⟨by decide, isRemote_pairwiseHost, finished, failure, left, named, said⟩

end Migration

end SocialMigration
