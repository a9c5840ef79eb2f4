import Mathlib
import SocialMigration.Proofs.Json.RoundTrip
import SocialMigration.Proofs.Migration.Saving
import SocialMigration.Proofs.RunFolder.Making

/-!
# The saved report

A run whose results are to be saved writes them when everything else is over, whether it reached its
end or not. What is read from the file then is the report that the run hands back, with the same
keys in the same order, as long as each part of it can be read back at all: an integer of more
digits than are read is not written in the first place, and a pair of surrogates is read as one code
point.
-/

namespace SocialMigration

namespace Json

/-- Whether a value is not a string that a reader takes for another. -/
def isUnpairedPart : Json → Bool
  | str text => text.isUnpaired
  | _ => true

/-- Whether a value is not an object with keys that cannot be read back. -/
def hasPlainKeys : Json → Bool
  | obj fields => fields.all (·.1.isUnpaired) && decide (fields.map Prod.fst).Nodup
  | _ => true

theorem all_and (first second : Json → Bool) (value : Json) :
    value.all (fun part => first part && second part) =
      (value.all first && value.all second) := by
  rw [Bool.eq_iff_iff, Bool.and_eq_true]
  induction value using forall_of_parts with
  | null | bool | int | float | str => simp only [all, Bool.and_eq_true]
  | arr items parts =>
      simp only [all_arr_iff, Bool.and_eq_true, forall₂_congr parts, forall_and]
      tauto
  | obj fields parts =>
      simp only [all_obj_iff, Bool.and_eq_true, forall₂_congr parts, forall_and]
      tauto

/-- A value can be read back if its strings, its integers and its keys can. -/
theorem isLegible_of_parts {value : Json} (unpaired : value.all isUnpairedPart = true)
    (short : value.hasShortIntegers = true) (plain : value.all hasPlainKeys = true) :
    value.isLegible = true := by
  have split : isLegiblePart =
      fun part => isUnpairedPart part && (isShortPart part && hasPlainKeys part) := by
    funext part
    cases part <;> simp [isLegiblePart, isUnpairedPart, isShortPart, hasPlainKeys]
  rw [hasShortIntegers] at short
  rw [isLegible, split, all_and, all_and, unpaired, short, plain]
  rfl

end Json

namespace Migration

variable {World : Type} {host : Host (StateM World)} {config : Config} {folder : RunFolder}
  {tree : FileTree} {world : World}

/-! ## The parts of a report -/

theorem isFloatFree_toJson (results : Results) : results.toJson.isFloatFree = true := by
  rcases results with ⟨config, startedAt, completedAt, stop, hint, stage, summary, nodes, accounts⟩
  cases stop <;> cases hint <;> cases summary <;> cases nodes <;> cases accounts <;> rfl

/-- The parts of a report hold no further parts. -/
theorem nesting_toJson_le (results : Results) : results.toJson.nesting ≤ 2 := by
  rcases results with ⟨config, startedAt, completedAt, stop, hint, stage, summary, nodes, accounts⟩
  cases stop <;> cases hint <;> cases summary <;> cases nodes <;> cases accounts <;>
    exact Nat.le_of_ble_eq_true rfl

/-- The keys that a report can have, in order. -/
def reportKeys : List Text :=
  ["started_at", "migrator", "config", "success", "summary", "error", "error_type", "resume_hint",
    "state", "progress", "completed_at"]

theorem map_fst_fieldOf {Value : Type} (key : Text) (value : Option Value) (toJson : Value → Json) :
    ((Results.fieldOf key value toJson).map Prod.fst).Sublist [key] := by
  cases value with
  | none => exact List.nil_sublist _
  | some value => exact .refl _

theorem all_fieldOf {Value : Type} {key : Text} {value : Option Value} {toJson : Value → Json}
    {test : Json → Bool} (holds : ∀ found, (toJson found).all test = true) :
    ∀ field ∈ Results.fieldOf key value toJson, field.2.all test = true := by
  cases value with
  | none => exact List.forall_mem_nil _
  | some found => exact List.forall_mem_singleton.mpr (holds found)

/-- Whatever a report leaves out, its keys are some of these. -/
theorem keys_toJson (results : Results) :
    ∃ fields, results.toJson = .obj fields ∧ (fields.map Prod.fst).Sublist reportKeys := by
  refine ⟨_, rfl, ?_⟩
  simp only [List.map_append]
  have split : reportKeys = ["started_at", "migrator", "config", "success"] ++ ["summary"] ++
      ["error"] ++ ["error_type"] ++ ["resume_hint"] ++ ["state", "progress", "completed_at"] := rfl
  rw [split]
  exact (((((List.Sublist.refl _).append (map_fst_fieldOf ..)).append
    (map_fst_fieldOf ..)).append (map_fst_fieldOf ..)).append (map_fst_fieldOf ..)).append
    (.refl _)

theorem hasPlainKeys_toJson (results : Results) : results.toJson.all Json.hasPlainKeys = true := by
  have progress : results.progressJson.all Json.hasPlainKeys = true := by
    rw [Results.progressJson]
    cases results.nodesCommitted <;> cases results.accountsCommitted <;> rfl
  rw [Results.toJson, Json.all_obj_iff]
  constructor
  · rcases keys_toJson results with ⟨fields, same, listed⟩
    obtain rfl := Json.obj.inj same
    have known : reportKeys.Nodup ∧ ∀ key ∈ reportKeys, key.isUnpaired = true := by decide
    rw [Json.hasPlainKeys, Bool.and_eq_true, decide_eq_true_eq, List.all_eq_true]
    exact ⟨fun field inside => known.2 _ (listed.subset (List.mem_map_of_mem inside)),
      known.1.sublist listed⟩
  · simp only [List.forall_mem_append]
    refine ⟨⟨⟨⟨⟨?_, ?_⟩, ?_⟩, ?_⟩, ?_⟩, ?_⟩
    · simp only [Results.openingFields, List.forall_mem_cons]
      exact ⟨rfl, rfl, rfl, rfl, List.forall_mem_nil _⟩
    · exact all_fieldOf fun _ => rfl
    · exact all_fieldOf fun _ => rfl
    · exact all_fieldOf fun _ => rfl
    · exact all_fieldOf fun _ => rfl
    · simp only [Results.closingFields, List.forall_mem_cons]
      exact ⟨rfl, progress, rfl, List.forall_mem_nil _⟩

/-- The report of a run that returns is read back from its file, by every reader that has room for
parts in it. -/
theorem saved_report_reads_back [Platform] [Platform.PrintsAll] (host : Host (StateM World))
    (world : World)
    (usable : config.isUsable) (saves : config.saveResults = true)
    (fresh : folder.current = none) (writable : folder.Saves tree) :
    ∃ results text, unsaved host config tree world = .ok results ∧
      (ending host config folder tree world).1 = .ok results ∧
      (ending host config folder tree world).2.tree.content?
        (FileTree.joinPath folder.path resultsFileName) = some text ∧
      (results.toJson.all Json.isUnpairedPart = true → results.toJson.hasShortIntegers = true →
        ∀ room, 2 ≤ room → Json.read room text = .ok results.toJson) := by
  rcases ending_saves host folder tree world usable with
    ⟨results, settled, ⟨returned, saved⟩ | ⟨failure, -, -, refused⟩⟩
  · rcases saved saves with ⟨⟨path, written⟩, after⟩
    rcases RunFolder.content?_save fresh written with ⟨rfl, found⟩
    refine ⟨results, _, settled, returned, after ▸ found, fun unpaired short room enough => ?_⟩
    exact Json.isReadFrom_written Json.Layout.isBlank_indented (isFloatFree_toJson results)
      (Json.isLegible_of_parts unpaired short (hasPlainKeys_toJson results)) room
      ((nesting_toJson_le results).trans enough)
  · rcases writable with ⟨path, written⟩
    exact nomatch refused.symm.trans written

attribute [local instance] Platform.accepting Platform.printsAll_accepting

/-- The small migration that saves its results. -/
def saving : Config :=
  { pairwise with saveResults := true, outputFolder := "output" }

/-- The folder for its results. -/
def savingFolder : RunFolder :=
  runFolder saving ⟨2024, 1, 1, 0, 0, 0, 0⟩

theorem saves_savingFolder : savingFolder.Saves ⟨[], []⟩ := by
  have path : savingFolder.path = "output/20240101_0000_old_testnet_to_new_testnet" := by
    decide +kernel
  have made : FileTree.makeDirectories ⟨[], []⟩ "output/20240101_0000_old_testnet_to_new_testnet" =
      (⟨[(["output"], .directory), (["output", "20240101_0000_old_testnet_to_new_testnet"],
        .directory)], []⟩, .ok ()) := by
    cbv
  have located : FileTree.locate ⟨[(["output"], .directory),
        (["output", "20240101_0000_old_testnet_to_new_testnet"], .directory)], []⟩ .writing
      (FileTree.joinPath "output/20240101_0000_old_testnet_to_new_testnet" resultsFileName) =
      .ok (.free ["output", "20240101_0000_old_testnet_to_new_testnet", resultsFileName]) := by
    cbv
  rw [← path] at made located
  exact ⟨_, RunFolder.save_eq_ok rfl made located (FileTree.Place.isOpen_free _) .null⟩

/-- The small migration stopped in its third call: what is read from its file are the results that
it hands back. -/
theorem saved_report_reads_back_stopped :
    ∃ results text, (ending pairwiseHost saving savingFolder ⟨[], []⟩ 2).1 = .ok results ∧
      results.success = false ∧
      (ending pairwiseHost saving savingFolder ⟨[], []⟩ 2).2.tree.content?
        (FileTree.joinPath savingFolder.path resultsFileName) = some text ∧
      Json.read Platform.bodyRoom text = .ok results.toJson := by
  have seen : (unsaved pairwiseHost saving ⟨[], []⟩ 2).toOption.map (fun results =>
      (results.success, results.toJson.all Json.isUnpairedPart,
        results.toJson.hasShortIntegers)) = some (false, true, true) := by
    decide +kernel
  have usable : saving.isUsable = true := by decide
  rcases saved_report_reads_back pairwiseHost 2 usable rfl rfl saves_savingFolder with
    ⟨results, text, settled, returned, found, back⟩
  rw [settled] at seen
  rcases Prod.mk.inj (Option.some.inj seen) with ⟨stopped, legible⟩
  rcases Prod.mk.inj legible with ⟨unpaired, short⟩
  exact ⟨results, text, returned, stopped, found, back unpaired short _ (by decide)⟩

end Migration

end SocialMigration
