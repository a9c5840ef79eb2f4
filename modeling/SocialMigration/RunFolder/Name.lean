import SocialMigration.Calendar
import SocialMigration.Text.Alphanumeric
import SocialMigration.Text.Digit
import SocialMigration.Text.Quoted

/-!
# Names of run folders

Every run has a folder named for the minute of its start and for the accounts it moves records
between. Reading a name back tells the minute again, in two steps: its shape, eight digits and four
digits of any script, each group followed by an underscore, and then the date and the time that the
digits stand for. A name of the right shape may still stand for no moment.
-/

namespace SocialMigration

namespace RunFolder

/-- The name of a run between two accounts. -/
def runName (source destination : Text) : Text :=
  source ++ "_to_" ++ destination

/-- A code point of a run's name as it stands in a folder's name. -/
def safe (c : CodePoint) : CodePoint :=
  if c.isAlphanumeric || c == 0x2D || c == 0x5F then c else 0x5F

/-- The name of the folder of a run. -/
def folderName (start : Moment) (run : Text) : Text :=
  start.stamp ++ "_" ++ run.map safe

/-- A text whose first code points are digits and whose next one is an underscore, cut there. -/
def takeGroup? (count : Nat) (text : Text) : Option (Text × Text) :=
  let digits := text.take count
  match text.drop count with
  | c :: rest =>
    if digits.length == count && digits.all CodePoint.isDigit && c == 0x5F then some (digits, rest)
    else none
  | [] => none

/-- Whether a text is a single line, which a line feed may end. -/
def isOneLine (text : Text) : Bool :=
  (text.dropWhile (· != 0x0A)).length ≤ 1

/-- The two groups of digits of a name that has the shape of a run folder's. -/
def groups? (name : Text) : Option (Text × Text) := do
  let (date, rest) ← takeGroup? 8 name
  let (time, rest) ← takeGroup? 4 rest
  if isOneLine rest then some (date, time) else none

/-- Why the digits of a name stand for no moment. -/
inductive NameFault where
  | noMatch (digits : Text)
  | leftOver (rest : Text)
  | yearZero
  | noSuchDay
  deriving DecidableEq, Repr

/-- The words for a fault. -/
def NameFault.message : NameFault → Text
  | noMatch digits =>
    "time data " ++ digits.quoted ++ " does not match format '%Y%m%d_%H%M'"
  | leftOver rest => "unconverted data remains: " ++ rest
  | yearZero => "year 0 is out of range"
  | noSuchDay => "day is out of range for month"

/-- The number that digits of any script denote. -/
def valueOf (digits : Text) : Nat :=
  Numeral.value 10 (Text.spanDigits digits).1

/-- Whether a code point lies between two ASCII digits. -/
def isBetween (first last c : CodePoint) : Bool :=
  first ≤ c && c ≤ last

/-- Whether two digits stand for a month: ASCII digits only. -/
def isMonth (a b : CodePoint) : Bool :=
  (a == 0x31 && isBetween 0x30 0x32 b) || (a == 0x30 && isBetween 0x31 0x39 b)

/-- Whether two digits may stand for a day of a month. The second digit after a one or a two may be
of any script. -/
def isDay (a b : CodePoint) : Bool :=
  (a == 0x33 && isBetween 0x30 0x31 b) || (isBetween 0x31 0x32 a && b.isDigit) ||
    (a == 0x30 && isBetween 0x31 0x39 b)

/-- Whether two digits stand for an hour. -/
def isHour (a b : CodePoint) : Bool :=
  (a == 0x32 && isBetween 0x30 0x33 b) || (isBetween 0x30 0x31 a && b.isDigit)

/-- Whether two digits stand for a minute. -/
def isMinute (a b : CodePoint) : Bool :=
  isBetween 0x30 0x35 a && b.isDigit

/-- The hour and the minute that four digits stand for, each read from two digits if they can be
and otherwise from one; and the digits left over. -/
def readTime (time : Text) : Text × Text × Text :=
  let hour := match time with
    | a :: b :: _ => if isHour a b then [a, b] else [a]
    | short => short
  let rest := time.drop hour.length
  let minute := match rest with
    | a :: b :: _ => if isMinute a b then [a, b] else [a]
    | short => short
  (hour, minute, rest.drop minute.length)

/-- The moment for which the two groups of a name stand. -/
def readMoment (date time : Text) : Except NameFault Moment :=
  match date.drop 4 with
  | [a, b, c, d] =>
    if isMonth a b && isDay c d then
      let (hour, minute, rest) := readTime time
      let year := valueOf (date.take 4)
      let month := valueOf [a, b]
      let day := valueOf [c, d]
      if !rest.isEmpty then .error (.leftOver rest)
      else if year == 0 then .error .yearZero
      else if Calendar.daysInMonth year month < day then .error .noSuchDay
      else .ok ⟨year, month, day, valueOf hour, valueOf minute, 0, 0⟩
    else .error (.noMatch (date ++ "_" ++ time))
  | _ => .error (.noMatch (date ++ "_" ++ time))

end RunFolder

end SocialMigration
