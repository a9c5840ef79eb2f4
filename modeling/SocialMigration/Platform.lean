import SocialMigration.FileTree.Basic
import SocialMigration.Json.Depth

/-!
# The platform

What the program finds on the machine that runs it. The stack on which it goes through nested values
and directories ends somewhere, lists and bytes have to fit into the memory, and the standard output
may refuse a text that it cannot encode. None of this is fixed here: what is said of the program is
said for every platform, or names what it takes for granted of one.
-/

namespace SocialMigration

/-- The places at which a value is put into text: the arguments of a view call on a line, those of a
change call in a file, the error of a node on a line, and what messages quote, which are details of
errors, statuses, counts, account records and balances with their accounts. -/
inductive Place where
  | request
  | argumentsFile
  | nodeError
  | detail
  | status
  | count
  | record
  | balance
  deriving DecidableEq, Repr

/-- What the machine leaves room for, and what its output refuses. -/
class Platform where
  /-- How many arrays and objects may stand in each other in the body of a response. -/
  bodyRoom : Nat
  /-- How many may stand in each other in the result that a response carries. -/
  resultRoom : Nat
  /-- How many values may stand in each other where one is put into text. -/
  textRoom : Place → Nat
  /-- How many directories below a directory may stand in each other if it is to be removed. -/
  folderRoom : Nat
  /-- What is left of a tree when the removal of a directory breaks off. -/
  leftover : FileTree → Trail → FileTree
  /-- The greatest number of offsets for whose list there is room. -/
  offsetRoom : Nat
  /-- The greatest number of bytes for which there is room. -/
  byteRoom : Int
  /-- Why the standard output refuses a text, if it does. -/
  refusal? : Text → Option Text

/-- The standard output accepts every text. -/
class Platform.PrintsAll [Platform] : Prop where
  accepts : ∀ text, Platform.refusal? text = none

/-- A platform with room for about as much as a stack of the usual depth and a large memory hold.
The program runs on it; what is said of the program does not depend on its numbers. -/
@[reducible]
def Platform.usual (refusal? : Text → Option Text) : Platform where
  bodyRoom := 990
  resultRoom := 990
  textRoom _ := 990
  folderRoom := 990
  leftover tree _ := tree
  offsetRoom := 0x200000000
  byteRoom := 0x1000000000
  refusal?

/-- The usual platform with an output that accepts every text. -/
@[reducible]
def Platform.accepting : Platform :=
  .usual fun _ => none

theorem Platform.printsAll_accepting : @Platform.PrintsAll .accepting :=
  @PrintsAll.mk .accepting fun _ => rfl

/-- A value that is not put into text: where, and why. -/
structure Unworded where
  place : Place
  flaw : Json.Flaw
  deriving DecidableEq, Repr

namespace Place

/-- What a value without parts takes of the stack: nothing where values are written on a line, and
as much as any other elsewhere. -/
def leaf : Place → Nat
  | request | nodeError => 0
  | argumentsFile | detail | status | count | record | balance => 1

variable [Platform]

/-- Why a value is not put into text at a place, if that is so. -/
def unworded? (place : Place) (value : Json) : Option Unworded :=
  (value.flaw? place.leaf (Platform.textRoom place)).map (⟨place, ·⟩)

/-- Why a value is not shown at a place on its own, where a string stands for itself. -/
def unshown? (place : Place) : Json → Option Unworded
  | .str _ => none
  | value => place.unworded? value

end Place

/-- Why a line is not printed, if it is wanted and the standard output refuses it. -/
def refusedIf [Platform] (wanted : Bool) (line : Text) : Option Text :=
  if wanted then Platform.refusal? line else none

end SocialMigration
