import SocialMigration.Settings.Load
import SocialMigration.Text.Blank

/-!
# Settings files

A settings file is a sequence of assignments, one a line: an optional `export`, a key, and after an
equals sign a value, which may be quoted and then may span lines. A comment starts with a number
sign. A line that is no assignment is skipped from where reading it stopped to its end.

Values may refer to variables. Those of the environment go before those assigned earlier in the
file, and the file never changes a variable that the environment has already.

This is one way to merge a settings file into the environment, with which the program is run. What
is said of loading does not depend on it.
-/

namespace SocialMigration

namespace Settings

/-- A key and the value assigned to it, or none for a key on its own. -/
abbrev Assignment := Text × Option Text

/-! ## Reading -/

/-- A blank that is no line feed. -/
def isInlineBlank (c : CodePoint) : Bool :=
  c.isBlank && c != 0x0A && c != 0x0D

/-- A text without the blanks at the start of its first line. -/
def skipInline (text : Text) : Text :=
  text.dropWhile isInlineBlank

/-- A text with every line end written as one line feed, and without the mark that may start it. -/
def withLineFeeds (text : Text) : Text :=
  unify (if text.head? == some 0xFEFF then text.drop 1 else text)
where
  unify : Text → Text
    | [] => []
    | c :: rest =>
      if c == 0x0D then
        match rest with
        | d :: after => 0x0A :: if d == 0x0A then unify after else unify (d :: after)
        | [] => [0x0A]
      else c :: unify rest

/-- A text without the `export` at its start, which blanks have to follow. -/
def skipExport (text : Text) : Text :=
  match Text.afterPrefix? "export" text with
  | some (c :: rest) => if isInlineBlank c then skipInline rest else text
  | _ => text

/-- Whether a code point may be part of a key that is not quoted. -/
def isKeyPart (c : CodePoint) : Bool :=
  c != 0x3D && c != 0x23 && !c.isBlank

/-- Reads the key at the start of a line: none on a line that holds only a comment. The failure is
where reading stopped. -/
def readKey (text : Text) : Except Text (Option Text × Text) :=
  match text with
  | [] => .error text
  | c :: rest =>
    if c == 0x23 then .ok (none, text)
    else if c == 0x27 then
      let key := rest.takeWhile (· != 0x27)
      match rest.drop key.length with
      | _ :: after => if key.isEmpty then .error text else .ok (some key, after)
      | [] => .error text
    else
      let key := text.takeWhile isKeyPart
      if key.isEmpty then .error text else .ok (some key, text.drop key.length)

/-- A text cut at its first quote. A backslash takes the code point after it along, whatever that
is, so a quote after it is no end. -/
def cutAtQuote? (quote : CodePoint) : Text → Option (Text × Text)
  | [] => none
  | c :: rest =>
    if c == quote then some ([], rest)
    else if c == 0x5C then
      match rest with
      | d :: after => (cutAtQuote? quote after).map fun (value, left) => (c :: d :: value, left)
      | [] => none
    else (cutAtQuote? quote rest).map fun (value, left) => (c :: value, left)

/-- The value that a quoted form stands for, where some characters may follow a backslash; every
other backslash stands for itself. -/
def unescape (meaning? : CodePoint → Option CodePoint) : Text → Text
  | [] => []
  | c :: rest =>
    if c == 0x5C then
      match rest with
      | d :: after =>
        match meaning? d with
        | some point => point :: unescape meaning? after
        | none => c :: unescape meaning? (d :: after)
      | [] => [c]
    else c :: unescape meaning? rest

/-- What a backslash and a character stand for between single quotes. -/
def singleEscape? (c : CodePoint) : Option CodePoint :=
  if c == 0x5C || c == 0x27 then some c else none

/-- What a backslash and a character stand for between double quotes. -/
def doubleEscape? (c : CodePoint) : Option CodePoint :=
  if c == 0x5C || c == 0x27 || c == 0x22 then some c
  else if c == 0x61 then some 0x07
  else if c == 0x62 then some 0x08
  else if c == 0x66 then some 0x0C
  else if c == 0x6E then some 0x0A
  else if c == 0x72 then some 0x0D
  else if c == 0x74 then some 0x09
  else if c == 0x76 then some 0x0B
  else none

/-- Reads a value after its opening quote. -/
def readQuotedValue (quote : CodePoint) (rest : Text) : Option (Text × Text) :=
  (cutAtQuote? quote rest).map fun (value, left) =>
    (unescape (if quote == 0x27 then singleEscape? else doubleEscape?) value, left)

/-- A line without the comment that blanks set apart from its value. -/
def cutComment (line : Text) : Text :=
  match line with
  | [] => []
  | c :: rest =>
    if c.isBlank && ((c :: rest).dropWhile CodePoint.isBlank).head? == some 0x23 then []
    else c :: cutComment rest

/-- Reads the value after an equals sign. A number sign that blanks set apart starts a comment, so
the value is empty. -/
def readValue (text : Text) : Except Text (Text × Text) :=
  let start := skipInline text
  match start with
  | [] => .ok ([], [])
  | c :: rest =>
    if c == 0x27 || c == 0x22 then
      match readQuotedValue c rest with
      | some found => .ok found
      | none => .error start
    else if c == 0x23 && start.length < text.length then .ok ([], start)
    else
      let line := start.takeWhile (· != 0x0A)
      .ok ((cutComment line).trimEnd, start.drop line.length)

/-- Reads the end of a line: blanks, and perhaps a comment. -/
def readLineEnd (text : Text) : Except Text Text :=
  let start := skipInline text
  let rest := if start.head? == some 0x23 then start.dropWhile (· != 0x0A) else start
  match rest with
  | [] => .ok []
  | c :: after => if c == 0x0A then .ok after else .error rest

/-- Reads an assignment and the end of its line. -/
def readAssignment (text : Text) : Except Text (Option Assignment × Text) := do
  let (key, rest) ← readKey (skipExport text)
  let start := skipInline rest
  let (value, rest) ← match start with
    | c :: after =>
      if c == 0x3D then do
        let (value, rest) ← readValue after
        pure (some value, rest)
      else pure (none, start)
    | [] => pure (none, [])
  let rest ← readLineEnd rest
  return (key.map (·, value), rest)

/-- A text after the end of its first line. -/
def nextLine (text : Text) : Text :=
  (text.dropWhile (· != 0x0A)).drop 1

/-- Reads assignments. Each round consumes a line, so the length of the text bounds them. -/
def readAssignments : (rounds : Nat) → Text → List Assignment
  | 0, _ => []
  | rounds + 1, text =>
    match text.trimStart with
    | [] => []
    | line =>
      match readAssignment line with
      | .ok (some assignment, rest) => assignment :: readAssignments rounds rest
      | .ok (none, rest) => readAssignments rounds rest
      | .error stopped => readAssignments rounds (nextLine stopped)

/-- The assignments of a settings file, in order. -/
def assignments (text : Text) : List Assignment :=
  readAssignments text.length (withLineFeeds text)

/-! ## Variables in values -/

/-- Reads a reference after its opening brace: the name, and what stands for a variable that is
missing. -/
def readReference? (text : Text) : Option (Text × Text × Text) :=
  let name := text.takeWhile fun c => c != 0x7D && c != 0x3A
  match text.drop name.length with
  | c :: rest =>
    if c == 0x7D then some (name, [], rest)
    else
      match rest with
      | d :: after =>
        if d == 0x2D then
          let standard := after.takeWhile (· != 0x7D)
          match after.drop standard.length with
          | _ :: left => some (name, standard, left)
          | [] => none
        else none
      | [] => none
  | [] => none

/-- A value with every reference replaced. Each round consumes a code point. -/
def expand (valueOf : Text → Option Text) : (rounds : Nat) → Text → Text
  | 0, text => text
  | _ + 1, [] => []
  | rounds + 1, c :: rest =>
    match if c == 0x24 && rest.head? == some 0x7B then readReference? (rest.drop 1) else none with
    | some (name, standard, left) =>
      (valueOf name).getD standard ++ expand valueOf rounds left
    | none => c :: expand valueOf rounds rest

/-- Sets a key in a list of assignments: in its place if it occurs, otherwise at the end. -/
def setAssignment (key : Text) (value : Option Text) : List Assignment → List Assignment
  | [] => [(key, value)]
  | (other, held) :: rest =>
    if other == key then (key, value) :: rest else (other, held) :: setAssignment key value rest

/-- The value of a variable: from the environment, or else as assigned; a key on its own counts as
empty. -/
def valueOf? (environment : Environment) (assigned : List Assignment) (name : Text) :
    Option Text :=
  match environment.lookup name with
  | some value => some value
  | none => (assigned.lookup name).map (·.getD [])

/-- Assignments with their references replaced, the last value of each key in its first place. -/
def resolved (environment : Environment) (assignments : List Assignment) : List Assignment :=
  assignments.foldl (fun assigned (key, value) =>
    setAssignment key
      (value.map fun text => expand (valueOf? environment assigned) text.length text)
      assigned) []

/-- The environment with one assignment, unless it has the variable already. A name may not hold an
equals sign, and neither it nor its value a null. -/
def assign (environment : Environment) (key : Text) (value : Option Text) :
    Except Fault Environment :=
  match value with
  | none => .ok environment
  | some value =>
    if (environment.lookup key).isSome then .ok environment
    else if key.contains 0 || value.contains 0 then .error .embeddedNull
    else if key.contains 0x3D then .error .illegalName
    else .ok (environment ++ [(key, value)])

/-- The variable of the environment that switches settings files off. -/
def offSwitch : Text := "PYTHON_DOTENV_DISABLED"

/-- The words that throw the switch. -/
def offWords : List Text := ["1", "true", "t", "yes", "y"]

/-- Whether settings files are switched off. Words count in any case, and a long s is an s. -/
def areOff (environment : Environment) : Bool :=
  let word := (valueOr environment offSwitch []).toLowerCase
  offWords.contains (word.map fun c => if c == 0x17F then 0x73 else c)

/-- The environment with the assignments of a settings file, unless these are switched off. -/
def withAssignments : Merge := fun environment text =>
  if areOff environment then .ok environment
  else
    (resolved environment (assignments text)).foldlM
      (fun environment (key, value) => assign environment key value) environment

end Settings

end SocialMigration
