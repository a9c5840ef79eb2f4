import SocialMigration.Text.Blank
import SocialMigration.Url.Address
import SocialMigration.Url.Fault
import SocialMigration.Url.Label
import SocialMigration.Url.Percent

/-!
# Hosts

The part of an address that names the machine: a name, which may hold escapes, or a numeric address,
in brackets if it is one of groups; and perhaps a port. In addresses of the web a host has one
written form: small letters, and labels in ASCII.
-/

namespace SocialMigration

namespace Url

/-- Whether a code point cannot be part of a host's name. -/
def endsName (c : CodePoint) : Bool :=
  (Text.ofString "[]%:/?#").contains c

/-- The host's name at the start of a text, and the rest. Each round consumes a code point. -/
def spanName : (rounds : Nat) → Text → Text × Text
  | 0, text => ([], text)
  | _ + 1, [] => ([], [])
  | rounds + 1, c :: rest =>
    if (escape? (c :: rest)).isSome then
      let (name, after) := spanName rounds (rest.drop 2)
      (c :: rest.take 2 ++ name, after)
    else if endsName c then ([], c :: rest)
    else
      let (name, after) := spanName rounds rest
      (c :: name, after)

/-- Whether a text consists of unreserved characters and escapes. Each round consumes a code
point. -/
def isZoneName : (rounds : Nat) → Text → Bool
  | _, [] => true
  | 0, _ => false
  | rounds + 1, c :: rest =>
    match escape? (c :: rest) with
    | some (_, _, after) => isZoneName rounds after
    | none => isUnreserved c && isZoneName rounds rest

/-- Whether a text may stand in brackets: an address of groups, after which a percent sign may set a
zone apart. -/
def isBracketed (text : Text) : Bool :=
  match text.breakAt (· == percent) with
  | none => Address.isVersion6 Address.isOctetShape text
  | some (address, zone) =>
    Address.isVersion6 Address.isOctetShape address && !zone.isEmpty &&
      isZoneName zone.length zone

/-- The host at the start of a text, and the rest. -/
def spanHost? (text : Text) : Option (Text × Text) :=
  match text with
  | c :: rest =>
    if c == 0x5B then
      match Text.breakAt (· == 0x5D) rest with
      | some (inner, after) =>
        if isBracketed inner then some (c :: inner ++ [0x5D], after) else none
      | none => none
    else some (spanName text.length text)
  | [] => some ([], [])

/-- A text without the line feed that may end it. -/
def withoutFinalLineFeed (text : Text) : Text :=
  if text.getLast? == some 0x0A then text.dropLast else text

/-- The port that digits denote, where zeros in front do not count and no digits are port zero;
nothing if there are too many digits. -/
def portOf? (digits : Text) : Option Nat :=
  let significant := digits.dropWhile (· == 0x30)
  if significant.all CodePoint.isAsciiDigit && significant.length ≤ 5 then
    some (Numeral.value 10 (significant.map CodePoint.asciiDigitValue))
  else none

/-- The host and the port that a text names. Port zero stands for none. -/
def hostAndPort? (text : Text) : Option (Text × Nat) := do
  let (host, rest) ← spanHost? text
  match withoutFinalLineFeed rest with
  | [] => return (host, 0)
  | c :: digits => if c == 0x3A then return (host, ← portOf? digits) else none

/-- The greatest port. -/
def portLimit : Nat := 65535

/-- Reads the host and the port of an address. -/
def readHost (url hostAndPort : Text) : Except Fault (Text × Nat) :=
  match hostAndPort? hostAndPort with
  | none => .error (.badHostOrPort hostAndPort)
  | some (host, port) => if portLimit < port then .error (.portTooLarge url) else .ok (host, port)

/-- A zone as it is written: without the mark of an escaped percent sign in front. -/
def zoneInAscii (zone : Text) : Text :=
  let name := match Text.afterPrefix? "25" zone with
    | some [] => zone
    | some name => name
    | none => zone
  escaped isUnreserved name

/-- An address in brackets as it is written. -/
def bracketedInAscii (host : Text) : Text :=
  match Text.breakAt (· == percent) host.dropLast with
  | none => host.map CodePoint.lowerAscii
  | some (address, zone) =>
    address.map CodePoint.lowerAscii ++ [percent] ++ zoneInAscii zone ++ [0x5D]

/-- A label of a host as it is written. -/
def labelInAscii (label : Text) : Except Fault Text :=
  if Label.isAscii label then .ok (label.map CodePoint.lowerAscii)
  else
    match Label.inAscii? label.toLowerCase with
    | some written => .ok written
    | none => .error (.badName label)

/-- Whether a character may not be part of a name, because it is a blank or a control character, or
because it ends a part of an address or sets one apart. -/
def isForbiddenInName (c : CodePoint) : Bool :=
  c.val ≤ 0x20 || c == 0x7F || (Text.ofString "#%/:<>?@[\\]^|").contains c

/-- A name as it is written. Escapes in it stand for what they mean. -/
def namedInAscii (host : Text) : Except Fault Text := do
  let name := unescaped host
  if let some c := name.find? isForbiddenInName then throw (.badHostCharacter name c)
  return Text.join "." (← (Address.split 0x2E name).mapM labelInAscii)

/-- A host of the web as it is written. -/
def hostInAscii (host : Text) : Except Fault Text :=
  if host.head? == some 0x5B then .ok (bracketedInAscii host) else namedInAscii host

/-- Whether a code point separates the labels of a name outside the web. -/
def isLabelPoint (c : CodePoint) : Bool :=
  [0x2E, 0x3002, 0xFF0E, 0xFF61].contains c

/-- The greatest length of a name in ASCII. -/
def nameLengthLimit : Nat := 253

/-- A character of a name outside the web in its small form, which does not depend on the characters
around it. -/
def smallForm (c : CodePoint) : Text :=
  if isLabelPoint c then [0x2E] else if c == 0x130 then [0x69, 0x307] else [c.lowerSimple]

/-- A name outside the web in ASCII. A point may end it, and all its labels have to obey the
rules. -/
def nameInAscii? (name : Text) : Option Text := do
  let pointed : Text := name.flatMap smallForm
  let text := pointed.composed
  let labels := Address.split 0x2E text
  let isEnded := labels.getLast? == some []
  let written ← (if isEnded then labels.dropLast else labels).mapM Label.inAscii?
  let whole := Text.join "." written ++ (if isEnded then Text.ofString "." else [])
  if written.isEmpty || nameLengthLimit + (if isEnded then 1 else 0) < whole.length then none
  else some whole

end Url

end SocialMigration
