import SocialMigration.Text.Alphanumeric
import SocialMigration.Text.Digit
import SocialMigration.Text.Utf8

/-!
# Percent escapes

An address holds the bytes of its text, some of them as escapes: a percent sign and two hexadecimal
digits. Which characters may stand for themselves differs from part to part; the unreserved ones
always may, so an escape of one of them means the same as the character.
-/

namespace SocialMigration

namespace Url

/-- The percent sign, with which escapes start. -/
def percent : CodePoint := 0x25

/-- Whether a code point is an ASCII letter. -/
def isAsciiLetter (c : CodePoint) : Bool :=
  (0x41 ≤ c.val && c.val ≤ 0x5A) || (0x61 ≤ c.val && c.val ≤ 0x7A)

/-- Whether a character never needs an escape. -/
def isUnreserved (c : CodePoint) : Bool :=
  isAsciiLetter c || c.isAsciiDigit || (Text.ofString "-._~").contains c

/-- Whether a character may stand in a user's name and password. -/
def inUserInfo (c : CodePoint) : Bool :=
  isUnreserved c || (Text.ofString "!$&'()*+,;=:").contains c

/-- Whether a character may stand in a path. -/
def inPath (c : CodePoint) : Bool :=
  inUserInfo c || c == 0x40 || c == 0x2F

/-- Whether a character may stand in a query or a fragment. -/
def inQuery (c : CodePoint) : Bool :=
  inPath c || c == 0x3F

/-- Whether a character other than the percent sign may stand in an address at all. -/
def inUrl (c : CodePoint) : Bool :=
  isUnreserved c || (Text.ofString "!#$&'()*+,/:;=?@[]~").contains c

/-- A hexadecimal digit as an upper-case letter. -/
def upperHex (digit : Nat) : CodePoint :=
  if digit < 10 then .ofNat (0x30 + digit) else .ofNat (0x41 + (digit - 10))

/-- The escape of a byte. -/
def escape (byte : UInt8) : Text :=
  [percent, upperHex (byte.toNat / 16), upperHex (byte.toNat % 16)]

/-- The escape at the start of a text, as its two digits, and the rest. -/
def escape? : Text → Option (Nat × Nat × Text)
  | c :: d :: e :: rest =>
    if c == percent then
      match d.hexValue?, e.hexValue? with
      | some high, some low => some (high, low, rest)
      | _, _ => none
    else none
  | _ => none

/-- A text with its escapes in upper case, and the number of them. Each round consumes a code
point. -/
def upperEscapesFrom : (rounds : Nat) → Text → Text × Nat
  | 0, text => (text, 0)
  | _ + 1, [] => ([], 0)
  | rounds + 1, c :: rest =>
    match escape? (c :: rest) with
    | some (high, low, after) =>
      let (text, count) := upperEscapesFrom rounds after
      (percent :: upperHex high :: upperHex low :: text, count + 1)
    | none =>
      let (text, count) := upperEscapesFrom rounds rest
      (c :: text, count)

/-- A text with its escapes in upper case, and the number of them. -/
def upperEscapes (text : Text) : Text × Nat :=
  upperEscapesFrom text.length text

/-- A part of an address in which only allowed characters stand for themselves. Escapes are kept if
every percent sign starts one; otherwise the percent signs are escaped too. -/
def escaped (isAllowed : CodePoint → Bool) (part : Text) : Text :=
  let (text, count) := upperEscapes part
  let isEscaped := count == text.count percent
  (Utf8.encode text).flatMap fun byte =>
    let c := CodePoint.ofNat byte.toNat
    if (isEscaped && c == percent) || (c.val < 0x80 && isAllowed c) then [c] else escape byte

/-- The value of a hexadecimal digit; decimal digits may be of any script. -/
def looseHexValue? (c : CodePoint) : Option Nat :=
  c.hexValue?.or c.digitValue?

/-- A text in which the escapes of unreserved characters are the characters; nothing if letters or
digits after a percent sign are no hexadecimal digits. -/
def withoutNeedlessEscapes? : Text → Option Text
  | [] => some []
  | c :: d :: e :: rest =>
    if c == percent && d.isAlphanumeric && e.isAlphanumeric then
      match looseHexValue? d, looseHexValue? e with
      | some high, some low =>
        let meant := CodePoint.ofNat (high * 16 + low)
        (withoutNeedlessEscapes? rest).map fun text =>
          if isUnreserved meant then meant :: text else c :: d :: e :: text
      | _, _ => none
    else (withoutNeedlessEscapes? (d :: e :: rest)).map (c :: ·)
  | c :: rest => (withoutNeedlessEscapes? rest).map (c :: ·)

/-- A whole address in which characters that may not stand in one are escaped. If not all percent
signs can be meant as escapes, none is. -/
def requoted (url : Text) : Text :=
  let (text, isKept) := match withoutNeedlessEscapes? url with
    | some text => (text, fun c => inUrl c || c == percent)
    | none => (url, inUrl)
  (Utf8.encode text).flatMap fun byte =>
    let c := CodePoint.ofNat byte.toNat
    if c.val < 0x80 && isKept c then [c] else escape byte

/-- The text that a part of an address means. Escapes stand for bytes; bytes that are no UTF-8 give
replacement characters. The bytes read so far come latest first, and each round consumes a code
point. -/
def unescapedFrom (bytes : List UInt8) : (rounds : Nat) → Text → Text
  | 0, _ => Utf8.decodeLenient bytes.reverse
  | _ + 1, [] => Utf8.decodeLenient bytes.reverse
  | rounds + 1, c :: rest =>
    match escape? (c :: rest) with
    | some (high, low, after) => unescapedFrom (.ofNat (high * 16 + low) :: bytes) rounds after
    | none =>
      if c.val < 0x80 then unescapedFrom (.ofNat c.val :: bytes) rounds rest
      else Utf8.decodeLenient bytes.reverse ++ c :: unescapedFrom [] rounds rest

/-- The text that a part of an address means. -/
def unescaped (part : Text) : Text :=
  unescapedFrom [] part.length part

end Url

end SocialMigration
