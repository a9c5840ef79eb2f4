import SocialMigration.Text.Quoted

/-!
# File faults

Why a path cannot be used as asked: the kind of fault and the path.
-/

namespace SocialMigration

namespace FileTree

/-- What is wrong with a path. -/
inductive FaultKind where
  | missing
  | exists
  | notADirectory
  | isADirectory
  | nameTooLong
  | tooManyLinks
  | nullInPath
  deriving DecidableEq, Repr

/-- A path that cannot be used, and why. -/
structure Fault where
  kind : FaultKind
  path : Text
  deriving DecidableEq, Repr

/-- The system's number and words for a fault, if the path gets as far as the system. -/
def FaultKind.numberAndWords? : FaultKind → Option (Nat × Text)
  | .missing => some (2, "No such file or directory")
  | .exists => some (17, "File exists")
  | .notADirectory => some (20, "Not a directory")
  | .isADirectory => some (21, "Is a directory")
  | .nameTooLong => some (36, "File name too long")
  | .tooManyLinks => some (40, "Too many levels of symbolic links")
  | .nullInPath => none

/-- The name under which a fault is reported. -/
def FaultKind.reportName : FaultKind → Text
  | .missing => "FileNotFoundError"
  | .exists => "FileExistsError"
  | .notADirectory => "NotADirectoryError"
  | .isADirectory => "IsADirectoryError"
  | .nameTooLong => "OSError"
  | .tooManyLinks => "OSError"
  | .nullInPath => "ValueError"

/-- The report of a fault. -/
def Fault.message (fault : Fault) : Text :=
  match fault.kind.numberAndWords? with
  | some (number, words) =>
    "[Errno " ++ Text.ofNat number ++ "] " ++ words ++ ": " ++ fault.path.quoted
  | none => "embedded null byte"

end FileTree

end SocialMigration
