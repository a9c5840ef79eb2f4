import SocialMigration.Text.Basic

/-!
# Base64

The padded base64 form of a byte sequence, in which view-call arguments travel. Three bytes become
four characters of a 64-character alphabet; a shorter last group is filled up with `=`. Decoding
accepts whole groups of the alphabet with padding at the very end only.
-/

namespace SocialMigration

namespace Base64

/-- The character of a six-bit number. -/
def character (n : Nat) : CodePoint :=
  if n < 26 then .ofNat (0x41 + n)
  else if n < 52 then .ofNat (0x61 + (n - 26))
  else if n < 62 then .ofNat (0x30 + (n - 52))
  else if n == 62 then 0x2B
  else 0x2F

/-- The six-bit number of a character of the alphabet. -/
def number? (c : CodePoint) : Option Nat :=
  if 0x41 ≤ c.val && c.val ≤ 0x5A then some (c.val - 0x41)
  else if 0x61 ≤ c.val && c.val ≤ 0x7A then some (c.val - 0x61 + 26)
  else if 0x30 ≤ c.val && c.val ≤ 0x39 then some (c.val - 0x30 + 52)
  else if c == 0x2B then some 62
  else if c == 0x2F then some 63
  else none

/-- The padded base64 text of a byte sequence. -/
def encode : List UInt8 → Text
  | [] => []
  | [a] =>
    let n := a.toNat
    [character (n / 4), character (n % 4 * 16), 0x3D, 0x3D]
  | [a, b] =>
    let n := a.toNat * 256 + b.toNat
    [character (n / 1024), character (n / 16 % 64), character (n % 16 * 4), 0x3D]
  | a :: b :: c :: rest =>
    let n := a.toNat * 65536 + b.toNat * 256 + c.toNat
    character (n / 262144) :: character (n / 4096 % 64) :: character (n / 64 % 64) ::
      character (n % 64) :: encode rest

/-- The bytes of a padded base64 text. -/
def decode? : Text → Option (List UInt8)
  | [] => some []
  | a :: b :: c :: d :: rest =>
    if d == 0x3D && rest.isEmpty then
      if c == 0x3D then do
        let n := (← number? a) * 64 + (← number? b)
        return [.ofNat (n / 16)]
      else do
        let n := ((← number? a) * 64 + (← number? b)) * 64 + (← number? c)
        return [.ofNat (n / 1024), .ofNat (n / 4)]
    else do
      let upper := (← number? a) * 64 + (← number? b)
      let n := (upper * 64 + (← number? c)) * 64 + (← number? d)
      let after ← decode? rest
      return .ofNat (n / 65536) :: .ofNat (n / 256) :: .ofNat n :: after
  | _ => none

end Base64

end SocialMigration
