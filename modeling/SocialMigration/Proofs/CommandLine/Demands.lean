import Mathlib.Data.List.Basic
import SocialMigration.CommandLine.Options

/-!
# What a command line demands

Wherever the words of a command line stand and however they are spelt: a command line that can be
read asks for help exactly if one of its words demands that, and otherwise sets exactly the flags
that its words demand.
-/

namespace SocialMigration

namespace CommandLine

/-- What a word demands. -/
def Word.demands : Word → List Demand
  | demanding demands => demands
  | awaiting demands => demands
  | _ => []

/-- What the words of a command line demand, up to a word that may be several options. -/
def demands (texts : List Text) : List Demand :=
  ((Word.ofTexts? texts).getD []).flatMap Word.demands

/-- Whether a demand is one that options remember by itself. -/
def Demand.isFlag : Demand → Bool
  | version | debug | dryRun => true
  | help | settingsFile _ => false

/-- Whether a flag is set in options. -/
def Options.sets (options : Options) : Demand → Bool
  | .version => options.version
  | .debug => options.debug
  | .dryRun => options.dryRun
  | .help | .settingsFile _ => false

namespace Options

variable {options : Options} {flag : Demand}

theorem sets_meet (isFlag : flag.isFlag) (demand : Demand) :
    (options.meet demand).sets flag = (options.sets flag || demand == flag) := by
  cases flag <;> cases isFlag <;> cases demand <;> simp [meet, sets]

theorem sets_foldl_meet (isFlag : flag.isFlag) (demands : List Demand) :
    (demands.foldl meet options).sets flag = (options.sets flag || demands.contains flag) := by
  induction demands generalizing options with
  | nil => simp
  | cons demand demands ih =>
      rw [List.foldl_cons, ih, sets_meet isFlag, List.contains_cons, Bool.or_assoc,
        BEq.comm (a := demand)]

end Options

/-- What is read of words that make demands agrees with these: help is read only if it is demanded,
and otherwise the flags that are demanded are set, and no others. -/
def Agrees (options : Options) (demanded : List Demand) : Reading → Prop
  | .help => .help ∈ demanded
  | .misuse => True
  | .start options' => .help ∉ demanded ∧ ∀ flag : Demand, flag.isFlag →
      options'.sets flag = (options.sets flag || demanded.contains flag)

/-- Demands that are met first may be put in front. -/
theorem Agrees.after {options : Options} {first demanded : List Demand} {reading : Reading}
    (agrees : Agrees (first.foldl .meet options) demanded reading) (noHelp : .help ∉ first) :
    Agrees options (first ++ demanded) reading := by
  cases reading with
  | help => exact List.mem_append_right first agrees
  | misuse => exact trivial
  | start options' =>
      rcases agrees with ⟨absent, same⟩
      refine ⟨by simp [noHelp, absent], fun flag isFlag => ?_⟩
      rw [same flag isFlag, Options.sets_foldl_meet isFlag, Bool.or_assoc]
      simp

/-- The path of the settings file is no flag. -/
theorem Agrees.ofPath {options : Options} {path : Text} {demanded : List Demand}
    {reading : Reading} (agrees : Agrees (options.meet (.settingsFile path)) demanded reading) :
    Agrees options demanded reading := by
  cases reading with
  | help => exact agrees
  | misuse => exact trivial
  | start options' =>
      refine ⟨agrees.1, fun flag isFlag => ?_⟩
      rw [agrees.2 flag isFlag]
      cases flag <;> rfl

/-- Words are read in agreement with what they demand. -/
theorem readWords_agrees (options : Options) (isLeftOver : Bool) (words : List Word) :
    Agrees options (words.flatMap Word.demands) (readWords options isLeftOver words) := by
  fun_induction readWords options isLeftOver words with
  | case1 => exact trivial
  | case2 options => exact ⟨by simp, by simp⟩
  | case3 => exact trivial
  | case4 options isLeftOver path words ih => exact ih
  | case5 options isLeftOver demands words help =>
      exact List.mem_append_left _ (List.contains_iff_mem.mp help)
  | case6 options isLeftOver demands words help ih =>
      exact ih.after (help ∘ List.contains_iff_mem.mpr)
  | case7 options isLeftOver words ih => exact ih
  | case8 options isLeftOver demands path words help =>
      exact List.mem_append_left _ (List.contains_iff_mem.mp help)
  | case9 options isLeftOver demands path words help ih =>
      exact ih.ofPath.after (help ∘ List.contains_iff_mem.mpr)
  | case10 => exact trivial

/-- A command line is read in agreement with what it demands. -/
theorem read_agrees (texts : List Text) : Agrees {} (demands texts) (read texts) := by
  rw [read, demands]
  cases Word.ofTexts? texts with
  | none => exact trivial
  | some words => exact readWords_agrees {} false words

theorem help_of_read {texts : List Text} (help : read texts = .help) : .help ∈ demands texts := by
  have agrees := read_agrees texts
  rwa [help] at agrees

theorem not_help_of_read {texts : List Text} {options : Options}
    (start : read texts = .start options) : .help ∉ demands texts := by
  have agrees := read_agrees texts
  rw [start] at agrees
  exact agrees.1

theorem sets_of_read {texts : List Text} {options : Options} (start : read texts = .start options)
    (flag : Demand) (isFlag : flag.isFlag) : options.sets flag = true ↔ flag ∈ demands texts := by
  have agrees := read_agrees texts
  rw [start] at agrees
  rw [agrees.2 flag isFlag]
  cases flag <;> simp [Options.sets]

end CommandLine

end SocialMigration
