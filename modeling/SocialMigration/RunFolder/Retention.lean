import SocialMigration.RunFolder.Basic

/-!
# Retention

Folders of runs that started before a cutoff are removed. Only directories named like run folders
are looked at; one whose name stands for no moment, or that is only linked, stays, with a warning.
Folders may hold directories so deep in each other that their removal breaks off, and then so does
the whole clean-up.
-/

namespace SocialMigration

namespace RunFolder

/-- The most days that can be counted back. -/
def dayLimit : Int := 999999999

/-- The instant that lies a number of days before a moment. -/
def cutoff (now : Moment) (days : Int) : Except RangeFault Int :=
  if 0x80000000 ≤ days then .error .daysTooLarge
  else if dayLimit < days then .error (.tooManyDays days)
  else if now.dayNumber ≤ days then .error .dateOutOfRange
  else .ok (now.instant - days * Calendar.microsecondsPerDay)

/-- What becomes of an entry that is looked at: it stays, the directory that its path leads to is
removed, or it stays for a reason that is worth a warning. -/
inductive Verdict where
  | kept
  | removed (trail : Trail)
  | spared (reason : Text)
  deriving DecidableEq, Repr

/-- Why a link is not removed. -/
def linkReason : Text := "Cannot call rmtree on a symbolic link"

/-- What becomes of a directory whose name has the shape of a run folder's. -/
def judge (cutoff : Int) (trail : Trail) (linked : Bool) (date time : Text) : Verdict :=
  match readMoment date time with
  | .error fault => .spared fault.message
  | .ok moment =>
    if moment.instant < cutoff then if linked then .spared linkReason else .removed trail else .kept

/-- Whether a path leads to a link itself. -/
def isLink (tree : FileTree) (path : Text) : Bool :=
  match tree.locate .itself path with
  | .ok (.taken _ (.link _)) => true
  | _ => false

/-- What becomes of an entry of the output directory. -/
def verdict (tree : FileTree) (base : Text) (cutoff : Int) (name : Text) : Verdict :=
  let path := FileTree.joinPath base name
  match groups? name with
  | none => .kept
  | some (date, time) =>
    match tree.found? path with
    | some (trail, .directory) => judge cutoff trail (isLink tree path) date time
    | _ => .kept

/-- The line that is printed for a folder that has been removed. -/
def deletedLine (name : Text) : Text :=
  "  Deleted old output folder: " ++ name

/-- The line that is printed for an entry that stays for a reason. -/
def warningLine (name reason : Text) : Text :=
  "  Warning: Could not process folder " ++ name ++ ": " ++ reason

/-- What a clean-up has done so far, and the lines that it has printed. -/
structure CleanUp where
  tree : FileTree
  removed : Nat
  lines : List Text

/-- A clean-up that has broken off: what it had done by then, and what has stopped it. -/
structure Interrupted where
  done : CleanUp
  failure : Failure

namespace CleanUp

variable [Platform]

/-- A clean-up after a line, if lines are wanted. The output may refuse it. -/
def tell (verbose : Bool) (cleanUp : CleanUp) (line : Text) : Except Text CleanUp :=
  match refusedIf verbose line with
  | some report => .error report
  | none => .ok (if verbose then { cleanUp with lines := cleanUp.lines ++ [line] } else cleanUp)

/-- A clean-up after a warning about an entry. -/
def warn (verbose : Bool) (cleanUp : CleanUp) (name reason : Text) : Except Interrupted CleanUp :=
  (cleanUp.tell verbose (warningLine name reason)).mapError (⟨cleanUp, .unprintable ·⟩)

/-- A clean-up after the removal of a folder, which breaks off where the stack ends. A line that is
refused is a reason to warn like any other. -/
def remove (verbose : Bool) (cleanUp : CleanUp) (name : Text) (trail : Trail) :
    Except Interrupted CleanUp :=
  if cleanUp.tree.isTooDeepBelow trail Platform.folderRoom then
    .error ⟨{ cleanUp with tree := Platform.leftover cleanUp.tree trail }, .unremoved⟩
  else
    let after : CleanUp := ⟨cleanUp.tree.prune trail, cleanUp.removed + 1, cleanUp.lines⟩
    match after.tell verbose (deletedLine name) with
    | .ok told => .ok told
    | .error report => after.warn verbose name report

/-- A clean-up after the verdict on an entry has been carried out. -/
def execute (verbose : Bool) (cleanUp : CleanUp) (name : Text) :
    Verdict → Except Interrupted CleanUp
  | .kept => .ok cleanUp
  | .removed trail => cleanUp.remove verbose name trail
  | .spared reason => cleanUp.warn verbose name reason

/-- A clean-up after an entry has been looked at, as the tree is by then. -/
def visit (verbose : Bool) (base : Text) (cutoff : Int) (cleanUp : CleanUp) (name : Text) :
    Except Interrupted CleanUp :=
  cleanUp.execute verbose name (verdict cleanUp.tree base cutoff name)

end CleanUp

/-- Removes the expired folders, one after the other. Without a positive number of days, or without
an output directory, nothing is done. -/
def cleanUp [Platform] (folder : RunFolder) (verbose : Bool) (tree : FileTree) (now : Moment) :
    Except Interrupted CleanUp :=
  match tree.found? folder.base with
  | some (trail, .directory) =>
    if folder.retentionDays ≤ 0 then .ok ⟨tree, 0, []⟩
    else
      match cutoff now folder.retentionDays with
      | .error fault => .error ⟨⟨tree, 0, []⟩, .range fault⟩
      | .ok cutoff =>
        (tree.namesBelow trail).foldlM (CleanUp.visit verbose folder.base cutoff) ⟨tree, 0, []⟩
  | _ => .ok ⟨tree, 0, []⟩

end RunFolder

end SocialMigration
