import SocialMigration.Json.Depth
import SocialMigration.Text.Digit

/-!
# Reading JSON

Reading a value from text. The grammar is JSON with three more words, `NaN`, `Infinity` and
`-Infinity`. A surrogate pair of escapes becomes one code point; a surrogate escape on its own
stays. A number is an integer unless it has a fraction or an exponent, and an integer is limited in
length. A repeated key keeps its first place and its last value.

A fault carries its cause and the text that was left where it was found; the whole text then turns
what was left into a place. Every array and every object takes some of the stack until it is read to
its end, and where that is used up reading stops, whatever follows.
-/

namespace SocialMigration

namespace Json

/-- What is wrong at a place in a text that is not JSON. -/
inductive Cause where
  | valueExpected
  | keyExpected
  | colonExpected
  | commaExpected
  | extraData
  | unterminatedString
  | controlCharacter
  | unknownEscape
  | badUnicodeEscape
  | byteOrderMark
  deriving DecidableEq, Repr

/-- What holds other values. -/
inductive Container where
  | array
  | object
  deriving DecidableEq, Repr

/-- A fault met while reading: a cause and the text left where it was found, an integer with too
many digits, or an opening for which the stack has no room. -/
inductive Fault where
  | found (cause : Cause) (left : Text)
  | integerTooLong (digits : Nat)
  | tooDeep (opened : Container)
  deriving DecidableEq, Repr

/-- A place in a text: line and column from one, and the offset from zero. -/
structure Place where
  line : Nat
  column : Nat
  offset : Nat
  deriving DecidableEq, Repr

/-- Why a text is not JSON. -/
inductive ReadError where
  | malformed (cause : Cause) (place : Place)
  | integerTooLong (digits : Nat)
  deriving DecidableEq, Repr

/-- Why no value is read from a text: it is not JSON, or its parts stand too deep in each other. -/
inductive Unread where
  | notJson (error : ReadError)
  | tooDeep (opened : Container)
  deriving DecidableEq, Repr

/-- The words for a cause. -/
def Cause.message : Cause → Text
  | valueExpected => "Expecting value"
  | keyExpected => "Expecting property name enclosed in double quotes"
  | colonExpected => "Expecting ':' delimiter"
  | commaExpected => "Expecting ',' delimiter"
  | extraData => "Extra data"
  | unterminatedString => "Unterminated string starting at"
  | controlCharacter => "Invalid control character at"
  | unknownEscape => "Invalid \\escape"
  | badUnicodeEscape => "Invalid \\uXXXX escape"
  | byteOrderMark => "Unexpected UTF-8 BOM (decode using utf-8-sig)"

/-- The report of a text that is not JSON. -/
def ReadError.message : ReadError → Text
  | malformed cause place =>
    cause.message ++ ": line " ++ Text.ofNat place.line ++ " column " ++ Text.ofNat place.column ++
      " (char " ++ Text.ofNat place.offset ++ ")"
  | integerTooLong digits =>
    "Exceeds the limit (" ++ Text.ofNat digitLimit ++ " digits) for integer string conversion: " ++
      "value has " ++ Text.ofNat digits ++
      " digits; use sys.set_int_max_str_digits() to increase the limit"

/-- The place that an offset of a text has. -/
def Place.ofOffset (text : Text) (offset : Nat) : Place :=
  let before := text.take offset
  ⟨before.count 0x0A + 1, (before.reverse.takeWhile (· != 0x0A)).length + 1, offset⟩

/-- A fault placed in the whole text. -/
def Fault.locate (whole : Text) : Fault → Unread
  | found cause left => .notJson (.malformed cause (.ofOffset whole (whole.length - left.length)))
  | integerTooLong digits => .notJson (.integerTooLong digits)
  | tooDeep opened => .tooDeep opened

/-- Whether a code point may stand between the parts of a value. -/
def isSpace (c : CodePoint) : Bool :=
  c == 0x20 || c == 0x09 || c == 0x0A || c == 0x0D

/-- A text without the space at its start. -/
def skipSpace (text : Text) : Text :=
  text.dropWhile isSpace

/-- The number that four hexadecimal digits denote. -/
def fourDigits? (a b c d : CodePoint) : Option Nat := do
  let a ← a.hexValue?
  let b ← b.hexValue?
  let c ← c.hexValue?
  let d ← d.hexValue?
  return ((a * 16 + b) * 16 + c) * 16 + d

/-- What a one-letter escape denotes. -/
def shortEscape? (c : CodePoint) : Option CodePoint :=
  if c == 0x22 || c == 0x5C || c == 0x2F then some c
  else if c == 0x62 then some 0x08
  else if c == 0x66 then some 0x0C
  else if c == 0x6E then some 0x0A
  else if c == 0x72 then some 0x0D
  else if c == 0x74 then some 0x09
  else none

/-- Reads the escape whose letter `u` starts the text. Its four digits count only if something
follows them. -/
def readUnicodeEscape (text : Text) : Except Fault (CodePoint × Text) :=
  match text with
  | _ :: a :: b :: c :: d :: rest =>
    match fourDigits? a b c d with
    | some n =>
      if rest.isEmpty then .error (.found .badUnicodeEscape text) else .ok (.ofNat n, rest)
    | none => .error (.found .badUnicodeEscape text)
  | _ => .error (.found .badUnicodeEscape text)

/-- Reads what may complete a high surrogate: an escape of a low one right after it. Any other
continuation leaves the surrogate on its own. -/
def readPair (high : CodePoint) (text : Text) : Except Fault (CodePoint × Text) :=
  match text with
  | backslash :: letter :: after =>
    if backslash == 0x5C && letter == 0x75 then
      match readUnicodeEscape (letter :: after) with
      | .ok (low, rest) =>
        if low.isLowSurrogate then .ok (.ofSurrogates high low, rest) else .ok (high, text)
      | .error fault => .error fault
    else .ok (high, text)
  | _ => .ok (high, text)

/-- Reads the escape whose backslash starts the text. -/
def readEscape (opening text : Text) : Except Fault (CodePoint × Text) :=
  match text with
  | _ :: letter :: after =>
    if letter == 0x75 then
      match readUnicodeEscape (letter :: after) with
      | .ok (point, rest) =>
        if point.isHighSurrogate then readPair point rest else .ok (point, rest)
      | .error fault => .error fault
    else
      match shortEscape? letter with
      | some point => .ok (point, after)
      | none => .error (.found .unknownEscape text)
  | _ => .error (.found .unterminatedString opening)

/-- Reads the rest of a string whose opening quote starts `opening`; `decoded` holds the code
points so far, nearest first. Each round consumes a code point. -/
def readString (opening : Text) : (rounds : Nat) → (decoded : Text) → Text →
    Except Fault (Text × Text)
  | 0, _, _ => .error (.found .unterminatedString opening)
  | _ + 1, _, [] => .error (.found .unterminatedString opening)
  | rounds + 1, decoded, c :: rest =>
    if c == 0x22 then .ok (decoded.reverse, rest)
    else if c == 0x5C then
      match readEscape opening (c :: rest) with
      | .ok (point, after) => readString opening rounds (point :: decoded) after
      | .error fault => .error fault
    else if c.val < 0x20 then .error (.found .controlCharacter (c :: rest))
    else readString opening rounds (c :: decoded) rest

/-- Reads the string whose opening quote starts the text. -/
def readQuoted (rounds : Nat) (text : Text) : Except Fault (Text × Text) :=
  readString text rounds [] text.tail

/-- The ASCII digits at the start of a text, and the rest. -/
def takeDigits (text : Text) : List Nat × Text :=
  ((text.takeWhile CodePoint.isAsciiDigit).map CodePoint.asciiDigitValue,
    text.dropWhile CodePoint.isAsciiDigit)

/-- The integer part of a number: a single zero, or digits that start with another one. -/
def integerPart? (text : Text) : Option (List Nat × Text) :=
  match text with
  | c :: rest =>
    if c == 0x30 then some ([0], rest)
    else if c.isAsciiDigit then some (takeDigits text)
    else none
  | [] => none

/-- The digits after a point, if there are any; otherwise the point is not part of the number. -/
def fractionPart? (text : Text) : Option (List Nat × Text) :=
  match text with
  | c :: rest =>
    match takeDigits rest with
    | ([], _) => none
    | found => if c == 0x2E then some found else none
  | [] => none

/-- A signed exponent, if there is one; otherwise its letter is not part of the number. -/
def exponentPart? (text : Text) : Option (Int × Text) :=
  match text with
  | e :: rest =>
    if e == 0x65 || e == 0x45 then
      let (negative, digits) := Text.splitSign rest
      match takeDigits digits with
      | ([], _) => none
      | (found, after) =>
        let size : Int := Numeral.value 10 found
        some (if negative then -size else size, after)
    else none
  | [] => none

/-- Reads a number, if one starts the text. -/
def readNumber? (text : Text) : Option (Except Fault (Json × Text)) :=
  let (negative, unsigned) := match text with
    | c :: rest => if c == 0x2D then (true, rest) else (false, text)
    | [] => (false, [])
  match integerPart? unsigned with
  | none => none
  | some (whole, rest) =>
    let (fraction, afterFraction) := (fractionPart? rest).getD ([], rest)
    let (exponent, after) := match exponentPart? afterFraction with
      | some (exponent, after) => (some exponent, after)
      | none => (none, afterFraction)
    if fraction.isEmpty && exponent.isNone then
      if digitLimit < whole.length then some (.error (.integerTooLong whole.length))
      else
        let size : Int := Numeral.value 10 whole
        some (.ok (.int (if negative then -size else size), after))
    else
      let significand := Numeral.value 10 (whole ++ fraction)
      let scale := exponent.getD 0 - fraction.length
      some (.ok (.float (.ofDecimal negative significand scale), after))

/-- The words that stand for a value. -/
def words : List (Text × Json) :=
  [("null", .null), ("true", .bool true), ("false", .bool false), ("NaN", .float .nan),
    ("Infinity", .float (.infinite false)), ("-Infinity", .float (.infinite true))]

/-- Reads a word, if one starts the text. -/
def readWord? (text : Text) : Option (Json × Text) :=
  words.findSome? fun (word, value) => (Text.afterPrefix? word text).map (value, ·)

mutual

/-- Reads a value at the start of a text, with room for so many arrays and objects in each other.
The rounds bound the nesting and the length of strings as well; every value, item and field takes at
most two of them for each code point. -/
def readValue (room : Nat) : (rounds : Nat) → Text → Except Fault (Json × Text)
  | 0, text => .error (.found .valueExpected text)
  | _ + 1, [] => .error (.found .valueExpected [])
  | rounds + 1, c :: rest =>
    if c == 0x22 then (readQuoted rounds (c :: rest)).map fun (text, after) => (.str text, after)
    else if c == 0x5B then
      if room = 0 then .error (.tooDeep .array)
      else
        match skipSpace rest with
        | [] => readItems (room - 1) rounds [] []
        | d :: after =>
          if d == 0x5D then .ok (.arr [], after) else readItems (room - 1) rounds [] (d :: after)
    else if c == 0x7B then
      if room = 0 then .error (.tooDeep .object)
      else
        match skipSpace rest with
        | [] => readFields (room - 1) rounds [] []
        | d :: after =>
          if d == 0x7D then .ok (.obj [], after) else readFields (room - 1) rounds [] (d :: after)
    else
      match readWord? (c :: rest) with
      | some found => .ok found
      | none =>
        match readNumber? (c :: rest) with
        | some found => found
        | none => .error (.found .valueExpected (c :: rest))

/-- Reads the items of an array from the start of one; `read` holds those before it, nearest
first. -/
def readItems (room : Nat) : (rounds : Nat) → (read : List Json) → Text →
    Except Fault (Json × Text)
  | 0, _, text => .error (.found .valueExpected text)
  | rounds + 1, read, text =>
    match readValue room rounds text with
    | .error fault => .error fault
    | .ok (item, rest) =>
      match skipSpace rest with
      | [] => .error (.found .commaExpected [])
      | c :: after =>
        if c == 0x5D then .ok (.arr (item :: read).reverse, after)
        else if c == 0x2C then readItems room rounds (item :: read) (skipSpace after)
        else .error (.found .commaExpected (c :: after))

/-- Reads the fields of an object from the start of a key; `read` holds the settings before it,
nearest first. -/
def readFields (room : Nat) : (rounds : Nat) → (read : List (Text × Json)) → Text →
    Except Fault (Json × Text)
  | 0, _, text => .error (.found .keyExpected text)
  | _ + 1, _, [] => .error (.found .keyExpected [])
  | rounds + 1, read, c :: rest =>
    if c == 0x22 then
      match readQuoted rounds (c :: rest) with
      | .error fault => .error fault
      | .ok (key, afterKey) =>
        match skipSpace afterKey with
        | [] => .error (.found .colonExpected [])
        | d :: afterColon =>
          if d == 0x3A then
            match readValue room rounds (skipSpace afterColon) with
            | .error fault => .error fault
            | .ok (value, rest) =>
              match skipSpace rest with
              | [] => .error (.found .commaExpected [])
              | e :: after =>
                if e == 0x7D then .ok (.ofSettings ((key, value) :: read).reverse, after)
                else if e == 0x2C then
                  readFields room rounds ((key, value) :: read) (skipSpace after)
                else .error (.found .commaExpected (e :: after))
          else .error (.found .colonExpected (d :: afterColon))
    else .error (.found .keyExpected (c :: rest))

end

/-- Reads a text that holds a value and space around it, up to the place of a fault. -/
def readWhole (room : Nat) (text : Text) : Except Fault Json :=
  if text.head? == some 0xFEFF then .error (.found .byteOrderMark text)
  else
    match readValue room (2 * text.length + 2) (skipSpace text) with
    | .error fault => .error fault
    | .ok (value, rest) =>
      match skipSpace rest with
      | [] => .ok value
      | left => .error (.found .extraData left)

/-- The value that a text holds, or why none is read, with room for so many arrays and objects in
each other. -/
def read (room : Nat) (text : Text) : Except Unread Json :=
  (readWhole room text).mapError (Fault.locate text)

end Json

end SocialMigration
