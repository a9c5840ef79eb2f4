import SocialMigration.Text.Basic

/-!
# UTF-8

The byte form of text. A code point takes one to four bytes; the first byte fixes how many follow
and between which bounds each of them lies, which excludes overlong forms, surrogates and numbers
past the last code point. Where a sequence breaks off, the bytes that still fitted form one bad
range: strict decoding reports the first bad range, lenient decoding shows a replacement character
for each.
-/

namespace SocialMigration

namespace Utf8

/-- Why a byte sequence is not the form of a code point. -/
inductive Reason where
  | invalidStart
  | invalidContinuation
  | endOfData
  deriving DecidableEq, Repr

/-- A bad range of bytes: where it starts, what it holds and why it is bad. -/
structure Fault where
  position : Nat
  bytes : List UInt8
  reason : Reason
  deriving DecidableEq, Repr

/-- The words for a reason. -/
def Reason.message : Reason → Text
  | .invalidStart => "invalid start byte"
  | .invalidContinuation => "invalid continuation byte"
  | .endOfData => "unexpected end of data"

/-- The report of a bad range. A single byte is shown, a longer range is located only. -/
def Fault.message (fault : Fault) : Text :=
  let place : Text := match fault.bytes with
    | [byte] => "byte 0x" ++ Text.hexadecimal 2 byte.toNat ++ " in position " ++
        Text.ofNat fault.position
    | bytes => "bytes in position " ++ Text.ofNat fault.position ++ "-" ++
        Text.ofNat (fault.position + bytes.length - 1)
  "'utf-8' codec can't decode " ++ place ++ ": " ++ fault.reason.message

/-- The bits that a first byte contributes, and the bounds of the bytes after it. -/
def lead? (first : UInt8) : Option (Nat × List (Nat × Nat)) :=
  let b := first.toNat
  let continuation := (0x80, 0xBF)
  if b < 0x80 then some (b, [])
  else if b < 0xC2 then none
  else if b < 0xE0 then some (b - 0xC0, [continuation])
  else if b == 0xE0 then some (0, [(0xA0, 0xBF), continuation])
  else if b == 0xED then some (b - 0xE0, [(0x80, 0x9F), continuation])
  else if b < 0xF0 then some (b - 0xE0, [continuation, continuation])
  else if b == 0xF0 then some (0, [(0x90, 0xBF), continuation, continuation])
  else if b < 0xF4 then some (b - 0xF0, [continuation, continuation, continuation])
  else if b == 0xF4 then some (4, [(0x80, 0x8F), continuation, continuation])
  else none

/-- What the front of a byte sequence is: a code point, or a bad range; and the bytes after it. -/
inductive Front where
  | point (c : CodePoint) (rest : List UInt8)
  | bad (bytes : List UInt8) (reason : Reason) (rest : List UInt8)

/-- Reads the bytes after a first one against their bounds. `bits` collects the number, `seen` the
bytes so far, nearest first. -/
def follow (bits : Nat) (seen : List UInt8) : List (Nat × Nat) → List UInt8 → Front
  | [], rest => .point (.ofNat bits) rest
  | _ :: _, [] => .bad seen.reverse .endOfData []
  | (low, high) :: bounds, byte :: rest =>
    if low ≤ byte.toNat && byte.toNat ≤ high then
      follow (bits * 64 + byte.toNat % 64) (byte :: seen) bounds rest
    else .bad seen.reverse .invalidContinuation (byte :: rest)

/-- The front of a byte sequence that starts with `first`. -/
def front (first : UInt8) (rest : List UInt8) : Front :=
  match lead? first with
  | none => .bad [first] .invalidStart rest
  | some (bits, bounds) => follow bits [first] bounds rest

/-- A bad range by the bytes that are left from its start on. -/
structure BadRange where
  left : List UInt8
  bytes : List UInt8
  reason : Reason

/-- A bad range with its place in a whole byte sequence. -/
def BadRange.locate (whole : List UInt8) (bad : BadRange) : Fault :=
  ⟨whole.length - bad.left.length, bad.bytes, bad.reason⟩

/-- Strict decoding; `decoded` holds the code points so far, nearest first. Each round consumes a
byte, so the number of bytes bounds the rounds. -/
def decodeFrom : (rounds : Nat) → (decoded : Text) → List UInt8 → Except BadRange Text
  | 0, decoded, _ => .ok decoded.reverse
  | _ + 1, decoded, [] => .ok decoded.reverse
  | rounds + 1, decoded, first :: rest =>
    match front first rest with
    | .point c after => decodeFrom rounds (c :: decoded) after
    | .bad bytes reason _ => .error ⟨first :: rest, bytes, reason⟩

/-- The text of a byte sequence, or its first bad range. -/
def decode (bytes : List UInt8) : Except Fault Text :=
  (decodeFrom bytes.length [] bytes).mapError (BadRange.locate bytes)

/-- Lenient decoding, with the code points so far nearest first. -/
def decodeLenientFrom : (rounds : Nat) → (decoded : Text) → List UInt8 → Text
  | 0, decoded, _ => decoded.reverse
  | _ + 1, decoded, [] => decoded.reverse
  | rounds + 1, decoded, first :: rest =>
    match front first rest with
    | .point c after => decodeLenientFrom rounds (c :: decoded) after
    | .bad _ _ after => decodeLenientFrom rounds (CodePoint.replacement :: decoded) after

/-- The text of a byte sequence, with a replacement character for every bad range. -/
def decodeLenient (bytes : List UInt8) : Text :=
  decodeLenientFrom bytes.length [] bytes

/-- The bytes of one code point. -/
def encodePoint (c : CodePoint) : List UInt8 :=
  let n := c.val
  if n < 0x80 then [.ofNat n]
  else if n < 0x800 then [.ofNat (0xC0 + n / 64), .ofNat (0x80 + n % 64)]
  else if n < 0x10000 then
    [.ofNat (0xE0 + n / 4096), .ofNat (0x80 + n / 64 % 64), .ofNat (0x80 + n % 64)]
  else
    [.ofNat (0xF0 + n / 262144), .ofNat (0x80 + n / 4096 % 64), .ofNat (0x80 + n / 64 % 64),
      .ofNat (0x80 + n % 64)]

/-- The bytes of a text. -/
def encode (text : Text) : List UInt8 :=
  text.flatMap encodePoint

end Utf8

end SocialMigration
