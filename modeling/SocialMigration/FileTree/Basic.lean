import SocialMigration.FileTree.Fault
import SocialMigration.Text.Utf8

/-!
# File trees

Directories, files and symbolic links below one root, and where a path leads. An entry is found
under the names from the root to it. A path is a text: it starts at the root if a slash starts it
and otherwise at the working directory; links on the way are followed, but only so many of them.
-/

namespace SocialMigration

/-- The names from the root to an entry. -/
abbrev Trail := List Text

namespace FileTree

/-- What stands under a trail. -/
inductive Entry where
  | file (content : Text)
  | directory
  | link (target : Text)
  deriving DecidableEq, Repr

end FileTree

/-- The entries below a root, and the working directory. The root itself is always a directory. -/
structure FileTree where
  entries : List (Trail × FileTree.Entry)
  working : Trail
  deriving Repr

namespace FileTree

/-- The entry under a trail. -/
def entry? (tree : FileTree) (trail : Trail) : Option Entry :=
  if trail.isEmpty then some .directory else tree.entries.lookup trail

/-- A tree with an entry under a trail, in the place of the one that was there. -/
def put (tree : FileTree) (trail : Trail) (entry : Entry) : FileTree :=
  { tree with entries := tree.entries.filter (·.1 != trail) ++ [(trail, entry)] }

/-- A tree without what stands under a trail and below it. -/
def prune (tree : FileTree) (trail : Trail) : FileTree :=
  { tree with entries := tree.entries.filter fun (other, _) => !trail.isPrefixOf other }

/-- The names of the entries right below a trail. -/
def namesBelow (tree : FileTree) (trail : Trail) : List Text :=
  tree.entries.filterMap fun (other, _) =>
    if other.dropLast == trail then other.getLast? else none

/-- The names between the slashes of a path. Two slashes in a row, or one at an end, have an empty
name between or beside them. -/
def pathParts (path : Text) : List Text :=
  go [] path
where
  go (name : Text) : Text → List Text
    | [] => [name.reverse]
    | c :: rest => if c == 0x2F then name.reverse :: go [] rest else go (c :: name) rest

/-- Whether a name leads nowhere: it is empty or a dot. -/
def leadsNowhere (name : Text) : Bool :=
  name == [] || name == [0x2E]

/-- The names of a path, except those that lead nowhere. -/
def pathNames (path : Text) : List Text :=
  (pathParts path).filter (!leadsNowhere ·)

/-- Whether a path starts at the root. -/
def isAbsolute (path : Text) : Bool :=
  path.head? == some 0x2F

/-- Where a path leads: to an entry, or to a free name in a directory. -/
inductive Place where
  | taken (trail : Trail) (entry : Entry)
  | free (trail : Trail)

/-- What a path is looked up for: what it leads to, the entry of its last name even if that is a
link, or a file to be written. -/
inductive Purpose where
  | target
  | itself
  | writing
  deriving DecidableEq, Repr

/-- The most links that are followed on one path. -/
def linkLimit : Nat := 40

/-- The most bytes of a name. -/
def nameLimit : Nat := 255

/-- The number of bytes from which on a path is too long. -/
def pathLimit : Nat := 4096

/-- Whether the names after a name are only those beside slashes at the end of a path, which ask for
a directory. There is at least one. -/
def isFinalSlash (rest : List Text) : Bool :=
  !rest.isEmpty && rest.all List.isEmpty

/-- Where a free name leads, given the names after it. A slash after it lets a directory be made
there and nothing else. -/
def placeOfFree (purpose : Purpose) (there : Trail) (rest : List Text) : Except FaultKind Place :=
  if rest.isEmpty || (purpose == .itself && isFinalSlash rest) then .ok (.free there)
  else .error .missing

/-- Goes from a directory along names. A link in the middle is always followed, and so is one at the
end unless it is itself looked up. No file is written where a slash asks for a directory. -/
def walk (tree : FileTree) (purpose : Purpose) (links : Nat) (here : Trail) (names : List Text) :
    Except FaultKind Place :=
  match names with
  | [] => .ok (.taken here ((tree.entry? here).getD .directory))
  | name :: rest =>
    if leadsNowhere name then walk tree purpose links here rest
    else if name == [0x2E, 0x2E] then walk tree purpose links here.dropLast rest
    else if purpose == .writing && isFinalSlash rest then .error .isADirectory
    else if nameLimit < (Utf8.encode name).length then .error .nameTooLong
    else
      let there := here ++ [name]
      match tree.entry? there with
      | none => placeOfFree purpose there rest
      | some .directory => walk tree purpose links there rest
      | some (.file content) =>
        if rest.isEmpty then .ok (.taken there (.file content)) else .error .notADirectory
      | some (.link target) =>
        if rest.isEmpty && purpose == .itself then .ok (.taken there (.link target))
        else
          match links with
          | 0 => .error .tooManyLinks
          | links + 1 =>
            let start := if isAbsolute target then [] else here
            walk tree purpose links start (pathParts target ++ rest)
termination_by (links, names.length)

/-- A path without the slashes at its end. -/
def withoutSlashes (path : Text) : Text :=
  (path.reverse.dropWhile (· == 0x2F)).reverse

/-- Whether a path has more bytes than a path may have. -/
def isTooLong (path : Text) : Bool :=
  pathLimit ≤ (Utf8.encode path).length

/-- Where a path leads. -/
def locate (tree : FileTree) (purpose : Purpose) (path : Text) : Except FaultKind Place :=
  if path.contains 0 then .error .nullInPath
  else if path.isEmpty then .error .missing
  else if isTooLong path then .error .nameTooLong
  else walk tree purpose linkLimit (if isAbsolute path then [] else tree.working) (pathParts path)

/-- The entry to which a path leads, if there is one. -/
def found? (tree : FileTree) (path : Text) : Option (Trail × Entry) :=
  match tree.locate .target path with
  | .ok (.taken trail entry) => some (trail, entry)
  | _ => none

/-- Whether a path leads to anything. -/
def exists? (tree : FileTree) (path : Text) : Bool :=
  (tree.found? path).isSome

/-- Whether a path leads to a directory. -/
def isDirectory (tree : FileTree) (path : Text) : Bool :=
  match tree.found? path with
  | some (_, .directory) => true
  | _ => false

/-- The text of the file to which a path leads. -/
def content? (tree : FileTree) (path : Text) : Option Text :=
  match tree.found? path with
  | some (_, .file content) => some content
  | _ => none

end FileTree

end SocialMigration
