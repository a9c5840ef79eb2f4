import SocialMigration.Failure
import SocialMigration.FileTree.Change
import SocialMigration.Json.Printer
import SocialMigration.RunFolder.Name

/-!
# Run folders

The folder of a run below the output directory, made when it is first needed, and the files in it.
Folders only report to the operator; nothing is ever read back from them.
-/

namespace SocialMigration

/-- Where runs are reported: the directory of all folders, the name of the run, for how many days
folders are kept, when the run started, and its folder once that is made. -/
structure RunFolder where
  base : Text
  name : Text
  retentionDays : Int
  start : Moment
  current : Option Text := none
  deriving Repr

namespace RunFolder

/-- The path that the folder of a run has. -/
def path (folder : RunFolder) : Text :=
  FileTree.joinPath folder.base (folderName folder.start folder.name)

/-- Makes the folder of a run. Its path counts as current from then on, even if it cannot be
made. -/
def create (folder : RunFolder) (tree : FileTree) : RunFolder × FileTree × Except Failure Text :=
  let path := folder.path
  let (tree, made) := tree.makeDirectories path
  ({ folder with current := some path }, tree, (made.mapError Failure.file).map fun () => path)

/-- The path of a file in the folder of a run, which has to be current. -/
def filePath (folder : RunFolder) (fileName : Text) : Except Failure Text :=
  match folder.current with
  | some current => .ok (FileTree.joinPath current fileName)
  | none => .error .folderMissing

/-- Writes a value as an indented file into the folder of a run, which has to be current. -/
def write (folder : RunFolder) (tree : FileTree) (fileName : Text) (value : Json) :
    FileTree × Except Failure Text :=
  match folder.filePath fileName with
  | .error failure => (tree, .error failure)
  | .ok path =>
    match tree.writeFile path (value.written .indented) with
    | .ok tree => (tree, .ok path)
    | .error fault => (tree, .error (.file fault))

/-- Writes a value as an indented file into the folder of a run, which is made if there is none
yet. -/
def save (folder : RunFolder) (tree : FileTree) (fileName : Text) (value : Json) :
    RunFolder × FileTree × Except Failure Text :=
  match folder.current with
  | some _ => (folder, folder.write tree fileName value)
  | none =>
    match folder.create tree with
    | (folder, tree, .error failure) => (folder, tree, .error failure)
    | (folder, tree, .ok _) => (folder, folder.write tree fileName value)

end RunFolder

end SocialMigration
