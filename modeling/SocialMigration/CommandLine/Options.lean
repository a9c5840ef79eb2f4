import SocialMigration.Text.Digit

/-!
# Command-line options

How the words of a command line are read. A word is a value or names options: a long one in full or
by a beginning that no other long option has, or short ones in a cluster. The path of the settings
file is attached to its option or is the next word. Values that no option takes, unknown options and
the words from a double dash on are left over, which is misuse, unless help has been asked for
before the words run out.
-/

namespace SocialMigration

namespace CommandLine

/-- What an option asks for. -/
inductive Demand where
  | help
  | version
  | debug
  | dryRun
  | settingsFile (path : Text)
  deriving DecidableEq, Repr

/-- What the name of an option stands for: a demand, or one for which a path is still to come. -/
inductive Switch where
  | plain (demand : Demand)
  | settings
  deriving DecidableEq, Repr

/-- The names of the options. -/
def switches : List (Text × Switch) :=
  [("-h", .plain .help), ("--help", .plain .help), ("--env", .settings), ("-e", .settings),
    ("--debug", .plain .debug), ("--dry-run", .plain .dryRun), ("--version", .plain .version),
    ("-v", .plain .version)]

/-- The short option with a letter. -/
def shortSwitch? (letter : CodePoint) : Option Switch :=
  switches.lookup [0x2D, letter]

/-- The long options whose names start as given. -/
def startingWith (start : Text) : List Switch :=
  (switches.filter fun (name, _) => start.isPrefixOf name).map (·.2)

/-- What a word of a command line is: a value, or demands, after which a path may still be to come,
or something that no option takes. -/
inductive Word where
  | value (text : Text)
  | demanding (demands : List Demand)
  | awaiting (demands : List Demand)
  | leftOver
  | misused
  deriving DecidableEq, Repr

namespace Word

/-- A word with one more demand in front. -/
def after (demand : Demand) : Word → Word
  | value text => value text
  | demanding demands => demanding (demand :: demands)
  | awaiting demands => awaiting (demand :: demands)
  | leftOver => leftOver
  | misused => misused

/-- An option with nothing attached to it. -/
def alone : Switch → Word
  | .plain demand => demanding [demand]
  | .settings => awaiting []

/-- A short option with text attached: a path, or the letters of further short options. -/
def joined : Switch → Text → Word
  | switch, [] => alone switch
  | .settings, path => demanding [.settingsFile path]
  | .plain demand, letter :: rest =>
    match shortSwitch? letter with
    | none => misused
    | some next => (joined next rest).after demand

/-- A long option with a value after an equals sign, which only a path may be. -/
def assigned (attached : Text) : Switch → Word
  | .plain _ => misused
  | .settings => demanding [.settingsFile attached]

/-- A short option with text after an equals sign, which counts as attached to it. -/
def assignedShort (attached : Text) (switch : Switch) : Word :=
  if attached.isEmpty then assigned attached switch else joined switch attached

/-- Whether a text consists of decimal digits, with a point among or before them if more follow
it. -/
def isUnsignedNumber (text : Text) : Bool :=
  let (digits, rest) := Text.spanDigits text
  match rest with
  | [] => !digits.isEmpty
  | c :: fraction =>
    let (places, rest) := Text.spanDigits fraction
    c == 0x2E && !places.isEmpty && rest.isEmpty

/-- A text without the line feed that may end it. -/
def dropFinalLineFeed (text : Text) : Text :=
  if text.getLast? == some 0x0A then text.dropLast else text

/-- A word with a dash that no option fits: a value if it is a negative number or contains a space,
and otherwise left over. -/
def ofUnknown (text : Text) : Word :=
  if isUnsignedNumber (dropFinalLineFeed text.tail) || text.contains 0x20 then value text
  else leftOver

/-- What is attached to a name by an equals sign. -/
def attach (attached : Option Text) (switch : Switch) : Word :=
  match attached with
  | some path => assigned path switch
  | none => alone switch

/-- A word that starts with two dashes and is no full name; nothing if it fits several options. -/
def ofLong? (text : Text) : Option Word :=
  let (start, attached) :=
    match text.breakAt (· == 0x3D) with
    | some (start, attached) => (start, some attached)
    | none => (text, none)
  match startingWith start with
  | [] => some (ofUnknown text)
  | [switch] => some (attach attached switch)
  | _ :: _ :: _ => none

/-- A word that starts with a dash and a letter and is no full name. -/
def ofShort (letter : CodePoint) (rest : Text) : Word :=
  match shortSwitch? letter with
  | some switch => joined switch rest
  | none => ofUnknown (0x2D :: letter :: rest)

/-- A word that starts with a dash and is no full name. -/
def ofDashed? (text : Text) : Option Word :=
  match text with
  | _ :: letter :: rest =>
    if letter == 0x2D then ofLong? text else some (ofShort letter rest)
  | short => some (value short)

/-- A full name with a value after an equals sign. -/
def ofAssignment? (text : Text) : Option Word := do
  let (name, attached) ← text.breakAt (· == 0x3D)
  let switch ← switches.lookup name
  return if List.isPrefixOf [0x2D, 0x2D] name then assigned attached switch
    else assignedShort attached switch

/-- What a word is; nothing if it may be several options. -/
def ofText? (text : Text) : Option Word :=
  if text.head? != some 0x2D then some (value text)
  else
    match switches.lookup text, ofAssignment? text with
    | some switch, _ => some (alone switch)
    | none, some word => some word
    | none, none => ofDashed? text

/-- What the words of a command line are; nothing if one of them may be several options. A double
dash and the words after it are left over. -/
def ofTexts? : List Text → Option (List Word)
  | [] => some []
  | text :: texts =>
    if text == [0x2D, 0x2D] then some (leftOver :: texts.map value)
    else do return (← ofText? text) :: (← ofTexts? texts)

end Word

/-- The options with which the program is started. -/
structure Options where
  settingsPath : Text := "./.env"
  debug : Bool := false
  dryRun : Bool := false
  version : Bool := false
  deriving DecidableEq, Repr

/-- Options with a demand met. -/
def Options.meet (options : Options) : Demand → Options
  | .help => options
  | .version => { options with version := true }
  | .debug => { options with debug := true }
  | .dryRun => { options with dryRun := true }
  | .settingsFile path => { options with settingsPath := path }

/-- What a command line asks for. -/
inductive Reading where
  | help
  | misuse
  | start (options : Options)
  deriving DecidableEq, Repr

/-- Reads words from the first to the last, with the options so far and whether something is left
over. -/
def readWords (options : Options) (isLeftOver : Bool) : List Word → Reading
  | [] => if isLeftOver then .misuse else .start options
  | .misused :: _ => .misuse
  | .value _ :: words => readWords options true words
  | .demanding demands :: words =>
    if demands.contains .help then .help
    else readWords (demands.foldl .meet options) isLeftOver words
  | .leftOver :: words => readWords options true words
  | .awaiting demands :: .value path :: words =>
    if demands.contains .help then .help
    else readWords ((demands.foldl .meet options).meet (.settingsFile path)) isLeftOver words
  | .awaiting _ :: _ => .misuse

/-- Reads the words of a command line. -/
def read (texts : List Text) : Reading :=
  match Word.ofTexts? texts with
  | some words => readWords {} false words
  | none => .misuse

end CommandLine

end SocialMigration
