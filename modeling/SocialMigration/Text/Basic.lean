import SocialMigration.Numeral

/-!
# Code points and text

Everything a migration reads, writes or prints is text: account ids, record fields, status words,
messages. A text is a sequence of Unicode code points. Surrogates are code points too, because a
JSON escape may denote one on its own and such a record has to pass through unchanged; this is why
text is not a core string, whose characters exclude them.
-/

namespace SocialMigration

/-- A Unicode code point, surrogates included. -/
abbrev CodePoint := Fin 0x110000

/-- There are code points, so that literals denote them. -/
instance CodePoint.neZero : @NeZero Nat Zero.ofOfNat0 0x110000 := ⟨by decide⟩

/-- A sequence of code points. -/
abbrev Text := List CodePoint

namespace CodePoint

/-- The replacement character, shown for what cannot be decoded. -/
def replacement : CodePoint := 0xFFFD

/-- The code point with a number; numbers past the last one give the replacement character. -/
def ofNat (n : Nat) : CodePoint :=
  if bound : n < 0x110000 then ⟨n, bound⟩ else replacement

/-- The code point of a character. -/
def ofChar (c : Char) : CodePoint :=
  ⟨c.toNat, by
    rcases c.valid with low | ⟨_, high⟩
    · exact Nat.lt_trans low (by decide)
    · exact high⟩

/-- Whether a code point is the first half of a surrogate pair. -/
def isHighSurrogate (c : CodePoint) : Bool :=
  0xD800 ≤ c.val && c.val ≤ 0xDBFF

/-- Whether a code point is the second half of a surrogate pair. -/
def isLowSurrogate (c : CodePoint) : Bool :=
  0xDC00 ≤ c.val && c.val ≤ 0xDFFF

/-- The code point above U+FFFF that a pair of surrogates denotes. -/
def ofSurrogates (high low : CodePoint) : CodePoint :=
  ofNat (0x10000 + (high.val - 0xD800) * 0x400 + (low.val - 0xDC00))

/-- An ASCII letter in lower case; every other code point as it is. -/
def lowerAscii (c : CodePoint) : CodePoint :=
  if 0x41 ≤ c.val && c.val ≤ 0x5A then ofNat (c.val + 0x20) else c

/-- Whether a code point lies in one of the closed intervals `ranges`. -/
def within (ranges : List (Nat × Nat)) (c : CodePoint) : Bool :=
  ranges.any fun (first, last) => first ≤ c.val && c.val ≤ last

@[simp] theorem val_ofNat {n : Nat} (bound : n < 0x110000) : (ofNat n).val = n := by
  simp [ofNat, bound]

@[simp] theorem ofNat_val (c : CodePoint) : ofNat c.val = c := by
  simp [ofNat, c.isLt]

end CodePoint

namespace Text

/-- The text of a core string. -/
def ofString (s : String) : Text :=
  s.toList.map CodePoint.ofChar

instance : Coe String Text := ⟨ofString⟩

/-- The lower-case character of a digit below sixteen. -/
def digitCharacter (digit : Nat) : CodePoint :=
  if digit < 10 then .ofNat (0x30 + digit) else .ofNat (0x61 + (digit - 10))

/-- The decimal text of a natural number. -/
def ofNat (n : Nat) : Text :=
  (Numeral.digits 10 n).map digitCharacter

/-- The decimal text of an integer. -/
def ofInt : Int → Text
  | .ofNat n => ofNat n
  | .negSucc n => 0x2D :: ofNat (n + 1)

/-- A text padded on the left with zeros to a width. -/
def padZeros (width : Nat) (text : Text) : Text :=
  List.replicate (width - text.length) 0x30 ++ text

/-- The lower-case hexadecimal text of a number, padded with zeros to a width. -/
def hexadecimal (width n : Nat) : Text :=
  padZeros width ((Numeral.digits 16 n).map digitCharacter)

/-- The decimal text of a number, padded with zeros to a width. -/
def paddedNat (width n : Nat) : Text :=
  padZeros width (ofNat n)

/-- The parts of a list of texts with a separator between neighbours. -/
def join (separator : Text) : List Text → Text
  | [] => []
  | [text] => text
  | text :: rest => text ++ separator ++ join separator rest

/-- A text cut at the first element that satisfies a test, which is dropped. -/
def breakAt (found : CodePoint → Bool) (text : Text) : Option (Text × Text) :=
  match text.dropWhile (!found ·) with
  | [] => none
  | _ :: rest => some (text.takeWhile (!found ·), rest)

/-- A text without the sign that may start it, and whether that is a minus. -/
def splitSign : Text → Bool × Text
  | [] => (false, [])
  | c :: rest =>
    if c == 0x2D then (true, rest) else if c == 0x2B then (false, rest) else (false, c :: rest)

/-- The text after a literal that it starts with. -/
def afterPrefix? (literal text : Text) : Option Text :=
  if literal.isPrefixOf text then some (text.drop literal.length) else none

end Text

end SocialMigration
