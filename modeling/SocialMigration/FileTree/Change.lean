import SocialMigration.FileTree.Basic

/-!
# Changing a file tree

Making directories, writing files and removing directories with all they hold. A change either
succeeds as a whole or names the path at fault; only making a chain of directories may leave a
part of the chain behind.
-/

namespace SocialMigration

namespace FileTree

/-- A path continued by a name; a name that is absolute stands for itself. -/
def joinPath (base name : Text) : Text :=
  if isAbsolute name then name
  else if base.isEmpty || base.getLast? == some 0x2F then base ++ name
  else base ++ [0x2F] ++ name

/-- A path cut at its last slash: what comes before, without slashes at its end unless it has
nothing else, and the last name. -/
def splitPath (path : Text) : Text × Text :=
  let tail := (path.reverse.takeWhile (· != 0x2F)).reverse
  let head := path.take (path.length - tail.length)
  if head.all (· == 0x2F) then (head, tail) else (withoutSlashes head, tail)

/-- The directory of a path and its last name, where a slash at the end does not count. -/
def parentAndName (path : Text) : Text × Text :=
  match splitPath path with
  | (head, []) => splitPath head
  | parts => parts

/-- Makes one directory. -/
def makeDirectory (tree : FileTree) (path : Text) : Except FaultKind FileTree :=
  match tree.locate .itself path with
  | .error kind => .error kind
  | .ok (.taken ..) => .error .exists
  | .ok (.free trail) => .ok (tree.put trail .directory)

/-- Makes a directory unless the path leads to one already. -/
def ensureDirectory (tree : FileTree) (path : Text) : Except Fault FileTree :=
  match tree.makeDirectory path with
  | .ok tree => .ok tree
  | .error kind => if tree.isDirectory path then .ok tree else .error ⟨kind, path⟩

/-- Makes a directory and those on the way to it. Each round goes one name up, so the length of the
path bounds them. The tree comes back also after a fault, with the directories made before it. -/
def ensureDirectories : (rounds : Nat) → FileTree → Text → FileTree × Except Fault Unit
  | 0, tree, path => (tree, .error ⟨.nameTooLong, path⟩)
  | rounds + 1, tree, path =>
    let (parent, name) := parentAndName path
    if parent.isEmpty || name.isEmpty || tree.exists? parent then finish tree path
    else
      match ensureDirectories rounds tree parent with
      | (tree, .ok ()) => if name == [0x2E] then (tree, .ok ()) else finish tree path
      | (tree, .error fault) =>
        if fault.kind == .exists then
          if name == [0x2E] then (tree, .ok ()) else finish tree path
        else (tree, .error fault)
where
  finish (tree : FileTree) (path : Text) : FileTree × Except Fault Unit :=
    match tree.ensureDirectory path with
    | .ok tree => (tree, .ok ())
    | .error fault => (tree, .error fault)

/-- Makes a directory with those on the way to it. -/
def makeDirectories (tree : FileTree) (path : Text) : FileTree × Except Fault Unit :=
  ensureDirectories (path.length + 1) tree path

/-- Writes a file, in the place of the one that was there. -/
def writeFile (tree : FileTree) (path content : Text) : Except Fault FileTree :=
  match tree.locate .writing path with
  | .error kind => .error ⟨kind, path⟩
  | .ok (.taken _ .directory) => .error ⟨.isADirectory, path⟩
  | .ok (.taken trail _) => .ok (tree.put trail (.file content))
  | .ok (.free trail) => .ok (tree.put trail (.file content))

/-- Whether directories below a trail stand deeper in each other than there is room for. -/
def isTooDeepBelow (tree : FileTree) (trail : Trail) (room : Nat) : Bool :=
  tree.entries.any fun (other, entry) =>
    entry == .directory && trail.isPrefixOf other && trail.length + room < other.length

end FileTree

end SocialMigration
