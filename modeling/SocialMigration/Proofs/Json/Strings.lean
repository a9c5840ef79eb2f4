import SocialMigration.Json.Printer
import SocialMigration.Json.Reader
import SocialMigration.Proofs.Numeral
import SocialMigration.Proofs.Text.Surrogate

/-!
# Strings written and read

A code point inside a JSON string is spelled in one of four ways. A text of which every code point
is spelled is read back as it is, unless two surrogates in it form a pair: the reader would take
their escapes for one code point. No text that has been read from a string has such a pair.
-/

namespace SocialMigration

/-- A number of four hexadecimal digits is written with exactly these. -/
theorem Text.hexadecimal_eq {n : Nat} (small : n < 0x10000) :
    hexadecimal 4 n =
      [n / 4096, n / 256 % 16, n / 16 % 16, n % 16].map digitCharacter := by
  have zero : digitCharacter 0 = 0x30 := by decide
  have last (m : Nat) (below : m < 16) : Numeral.digits 16 m = [m] := Numeral.digits_of_lt below
  have more (m : Nat) (big : 16 ≤ m) :
      Numeral.digits 16 m = Numeral.digits 16 (m / 16) ++ [m % 16] :=
    Numeral.digits_of_le (by decide) big
  rcases Nat.lt_or_ge n 16 with one | two
  · have high : n / 4096 = 0 ∧ n / 256 = 0 ∧ n / 16 = 0 ∧ n % 16 = n := by omega
    simp [hexadecimal, padZeros, last n one, high, zero, List.replicate_succ]
  rcases Nat.lt_or_ge n 256 with two' | three
  · have high : n / 4096 = 0 ∧ n / 256 = 0 ∧ n / 16 % 16 = n / 16 := by omega
    simp [hexadecimal, padZeros, more n two, last (n / 16) (by omega), high, zero,
      List.replicate_succ]
  rcases Nat.lt_or_ge n 4096 with three' | four
  · have high : n / 4096 = 0 ∧ n / 16 / 16 = n / 256 ∧ n / 256 % 16 = n / 256 := by omega
    simp [hexadecimal, padZeros, more n two, more (n / 16) (by omega), last (n / 256) (by omega),
      high, zero]
  · rw [hexadecimal, more n two, more (n / 16) (by omega), more (n / 16 / 16) (by omega),
      last (n / 16 / 16 / 16) (by omega)]
    simp [padZeros, Nat.div_div_eq_div_mul]

namespace Json

/-! ## Spellings -/

/-- The ways to spell a code point inside a string: as it stands, by a letter, by its number, or by
the numbers of a surrogate pair. -/
inductive Spells : CodePoint → Text → Prop where
  | plain {c : CodePoint} : c ≠ 0x22 → c ≠ 0x5C → 0x20 ≤ c.val → Spells c [c]
  | letter {c letter : CodePoint} : shortEscape? letter = some c → Spells c [0x5C, letter]
  | number {w x y z : CodePoint} {n : Nat} :
      fourDigits? w x y z = some n → Spells (.ofNat n) [0x5C, 0x75, w, x, y, z]
  | pair {w x y z w' x' y' z' : CodePoint} {high low : Nat} :
      fourDigits? w x y z = some high → (CodePoint.ofNat high).isHighSurrogate = true →
      fourDigits? w' x' y' z' = some low → (CodePoint.ofNat low).isLowSurrogate = true →
      Spells (.ofSurrogates (.ofNat high) (.ofNat low))
        [0x5C, 0x75, w, x, y, z, 0x5C, 0x75, w', x', y', z']

theorem hexValue?_digitCharacter :
    ∀ digit < 16, (Text.digitCharacter digit).hexValue? = some digit := by
  decide

/-- Four digits are written for a number below 2^16, and they denote it. -/
theorem unicodeEscape_eq {n : Nat} (small : n < 0x10000) :
    ∃ w x y z, unicodeEscape n = [0x5C, 0x75, w, x, y, z] ∧ fourDigits? w x y z = some n := by
  refine ⟨_, _, _, _, by rw [unicodeEscape, Text.hexadecimal_eq small]; rfl, ?_⟩
  simp only [fourDigits?, hexValue?_digitCharacter (n / 4096) (by omega),
    hexValue?_digitCharacter (n / 256 % 16) (by omega),
    hexValue?_digitCharacter (n / 16 % 16) (by omega),
    hexValue?_digitCharacter (n % 16) (by omega), Option.bind_eq_bind, Option.bind_some]
  exact congrArg some (by omega)

/-- Numbers above U+FFFF are written as the pair that denotes them. -/
theorem spells_pair {c : CodePoint} (large : 0x10000 ≤ c.val) :
    Spells c (unicodeEscape (0xD800 + (c.val - 0x10000) / 0x400) ++
      unicodeEscape (0xDC00 + (c.val - 0x10000) % 0x400)) := by
  have bound := c.isLt
  have highBound : 0xD800 + (c.val - 0x10000) / 0x400 < 0xDC00 := by omega
  have lowBound : 0xDC00 + (c.val - 0x10000) % 0x400 < 0xE000 := by omega
  rcases unicodeEscape_eq (Nat.lt_trans highBound (by decide)) with ⟨w, x, y, z, written, high⟩
  rcases unicodeEscape_eq (Nat.lt_trans lowBound (by decide)) with ⟨w', x', y', z', written', low⟩
  have denoted : CodePoint.ofSurrogates (.ofNat (0xD800 + (c.val - 0x10000) / 0x400))
      (.ofNat (0xDC00 + (c.val - 0x10000) % 0x400)) = c := by
    rw [CodePoint.ofSurrogates, CodePoint.val_ofNat (by omega), CodePoint.val_ofNat (by omega)]
    rw [show 0x10000 + (0xD800 + (c.val - 0x10000) / 0x400 - 0xD800) * 0x400 +
      (0xDC00 + (c.val - 0x10000) % 0x400 - 0xDC00) = c.val by omega, CodePoint.ofNat_val]
  have spelled := Spells.pair high
    (by
      rw [CodePoint.isHighSurrogate, CodePoint.val_ofNat (by omega)]
      simp only [Bool.and_eq_true, decide_eq_true_eq]
      omega) low
    (by
      rw [CodePoint.isLowSurrogate, CodePoint.val_ofNat (by omega)]
      simp only [Bool.and_eq_true, decide_eq_true_eq]
      omega)
  rw [denoted] at spelled
  rw [written, written']
  exact spelled

/-- What is written for a code point spells it. -/
theorem spells_escaped (c : CodePoint) : Spells c (escaped c) := by
  rw [escaped]
  split
  · rename_i special
    rw [Bool.or_eq_true, beq_iff_eq, beq_iff_eq] at special
    rcases special with rfl | rfl <;> exact .letter rfl
  rename_i special
  rw [Bool.or_eq_true, beq_iff_eq, beq_iff_eq, not_or] at special
  iterate 5
    split
    · rename_i same
      rcases eq_of_beq same with rfl
      exact .letter rfl
  split
  · rename_i printable
    rw [Bool.and_eq_true, decide_eq_true_eq, decide_eq_true_eq] at printable
    exact .plain special.1 special.2 printable.1
  split
  · rename_i small
    rcases unicodeEscape_eq small with ⟨w, x, y, z, written, denoted⟩
    rw [written]
    simpa using Spells.number denoted
  · rename_i large
    exact spells_pair (Nat.le_of_not_lt large)

/-! ## Reading spelled text -/

variable {c d high : CodePoint} {spelling rest opening decoded : Text}

theorem Spells.ne_nil (spells : Spells c spelling) : spelling ≠ [] := by
  cases spells <;> exact List.cons_ne_nil _ _

theorem shortEscape?_ne_u {letter : CodePoint} (found : shortEscape? letter = some c) :
    letter ≠ 0x75 := by
  intro same
  subst same
  exact nomatch found

theorem readUnicodeEscape_digits {w x y z : CodePoint} {n : Nat}
    (denoted : fourDigits? w x y z = some n) (more : rest ≠ []) :
    readUnicodeEscape (0x75 :: w :: x :: y :: z :: rest) = .ok (.ofNat n, rest) := by
  simp [readUnicodeEscape, denoted, more]

/-- A high surrogate stays on its own in front of what spells no low one. -/
theorem readPair_alone (spells : Spells d spelling) (apart : d.isLowSurrogate = false)
    (more : rest ≠ []) : readPair high (spelling ++ rest) = .ok (high, spelling ++ rest) := by
  cases spells with
  | plain quote backslash printable =>
      cases rest with
      | nil => exact absurd rfl more
      | cons next rest => simp [readPair, backslash]
  | letter found => simp [readPair, shortEscape?_ne_u found]
  | number denoted =>
      simp [readPair, readUnicodeEscape_digits denoted more, apart]
  | @pair w x y z w' x' y' z' first low denoted isHigh denoted' isLow =>
      have second : (0x5C :: 0x75 :: w' :: x' :: y' :: z' :: rest : Text) ≠ [] :=
        List.cons_ne_nil _ _
      have notLow := CodePoint.isLowSurrogate_of_high isHigh
      simp [readPair, readUnicodeEscape_digits denoted second, notLow]

/-- The end of a string completes no surrogate. -/
theorem readPair_quote (high : CodePoint) (rest : Text) :
    readPair high (0x22 :: rest) = .ok (high, 0x22 :: rest) := by
  cases rest <;> rfl

/-- A spelled code point is read, if it is not a surrogate that what follows completes. -/
theorem readString_spelled {rounds : Nat} (spells : Spells c spelling) (more : rest ≠ [])
    (alone : c.isHighSurrogate = true → readPair c rest = .ok (c, rest)) :
    readString opening (rounds + 1) decoded (spelling ++ rest) =
      readString opening rounds (c :: decoded) rest := by
  cases spells with
  | plain quote backslash printable =>
      simp [readString, quote, backslash, Nat.not_lt.mpr printable]
  | letter found =>
      simp [readString, readEscape, shortEscape?_ne_u found, found]
  | @number w x y z n denoted =>
      have escape : readEscape opening (0x5C :: 0x75 :: w :: x :: y :: z :: rest) =
          .ok (.ofNat n, rest) := by
        cases isHigh : (CodePoint.ofNat n).isHighSurrogate with
        | false => simp [readEscape, readUnicodeEscape_digits denoted more, isHigh]
        | true => simp [readEscape, readUnicodeEscape_digits denoted more, isHigh, alone isHigh]
      simp [readString, escape]
  | @pair w x y z w' x' y' z' first low denoted isHigh denoted' isLow =>
      have second : (0x5C :: 0x75 :: w' :: x' :: y' :: z' :: rest : Text) ≠ [] :=
        List.cons_ne_nil _ _
      have escape : readEscape opening
          (0x5C :: 0x75 :: w :: x :: y :: z :: 0x5C :: 0x75 :: w' :: x' :: y' :: z' :: rest) =
          .ok (.ofSurrogates (.ofNat first) (.ofNat low), rest) := by
        simp [readEscape, readUnicodeEscape_digits denoted second, isHigh, readPair,
          readUnicodeEscape_digits denoted' more, isLow]
      simp [readString, escape]

/-- A text of which every code point is spelled is read from a string, unless surrogates in it form
a pair. -/
theorem readString_flatMap {spell : CodePoint → Text} (spells : ∀ c, Spells c (spell c))
    {text : Text} (unpaired : text.isUnpaired = true) {rounds : Nat} (enough : text.length < rounds)
    (opening decoded rest : Text) :
    readString opening rounds decoded (text.flatMap spell ++ 0x22 :: rest) =
      .ok (decoded.reverse ++ text, rest) := by
  induction text generalizing rounds decoded with
  | nil =>
      cases rounds with
      | zero => exact absurd enough (Nat.not_lt_zero _)
      | succ rounds => simp [readString]
  | cons c text ih =>
      cases rounds with
      | zero => exact absurd enough (Nat.not_lt_zero _)
      | succ rounds =>
          rw [List.flatMap_cons, List.append_assoc, readString_spelled (spells c) (by simp),
            ih (Text.isUnpaired_tail unpaired) (Nat.lt_of_succ_lt_succ enough)]
          · simp
          · intro isHigh
            cases text with
            | nil => exact readPair_quote c rest
            | cons d text =>
                rw [List.flatMap_cons, List.append_assoc]
                exact readPair_alone (spells d)
                  (Text.head_of_isUnpaired unpaired isHigh d rfl) (by simp)

/-! ## What is read is unpaired -/

variable {text : Text}

/-- Whether a text starts with the escape of a low surrogate. -/
def OpensLow (text : Text) : Prop :=
  ∃ after low rest, text = 0x5C :: 0x75 :: after ∧
    readUnicodeEscape (0x75 :: after) = .ok (low, rest) ∧ low.isLowSurrogate = true

theorem suffix_of_readUnicodeEscape {letter : CodePoint} {after : Text}
    (read : readUnicodeEscape (letter :: after) = .ok (c, rest)) : rest <:+ after := by
  unfold readUnicodeEscape at read
  split at read
  · rename_i w x y z tail same
    rcases List.cons.inj same with ⟨-, rfl⟩
    split at read
    · split at read
      · exact nomatch read
      · cases read
        exact (List.suffix_cons ..).trans ((List.suffix_cons ..).trans
          ((List.suffix_cons ..).trans (List.suffix_cons ..)))
    · exact nomatch read
  · exact nomatch read

theorem not_surrogate_of_shortEscape? {letter : CodePoint}
    (found : shortEscape? letter = some c) : c.isSurrogate = false := by
  simp only [shortEscape?] at found
  split at found
  · rename_i same
    cases found
    simp only [Bool.or_eq_true, beq_iff_eq] at same
    rcases same with (rfl | rfl) | rfl <;> decide
  · iterate 5
      split at found
      · cases found
        decide
    simp at found

theorem not_surrogate_ofSurrogates (high low : CodePoint) :
    (CodePoint.ofSurrogates high low).isSurrogate = false :=
  CodePoint.isSurrogate_ofNat (.inr (by omega))

/-- A high surrogate that stays on its own is not in front of the escape of a low one. -/
theorem readPair_ok (isHigh : high.isHighSurrogate = true)
    (read : readPair high text = .ok (c, rest)) :
    c.isLowSurrogate = false ∧ (c.isHighSurrogate = true → ¬OpensLow rest) ∧ rest <:+ text := by
  have notLow := CodePoint.isLowSurrogate_of_high isHigh
  unfold readPair at read
  split at read
  · rename_i backslash letter after
    split at read
    · rename_i escape
      split at read
      · rename_i low tail found
        split at read
        · rcases Prod.mk.inj (Except.ok.inj read) with ⟨rfl, rfl⟩
          have scalar := CodePoint.halves_of_not_surrogate (not_surrogate_ofSurrogates high low)
          refine ⟨scalar.2, fun other => ?_, ?_⟩
          · rw [scalar.1] at other
            exact nomatch other
          · exact (suffix_of_readUnicodeEscape found).trans
              ((List.suffix_cons ..).trans (List.suffix_cons ..))
        · rename_i single
          cases read
          refine ⟨notLow, fun _ opens => ?_, List.suffix_refl _⟩
          rcases opens with ⟨_, low', _, same, found', isLow⟩
          cases same
          rw [found] at found'
          cases found'
          exact single isLow
      · exact nomatch read
    · rename_i other
      cases read
      refine ⟨notLow, fun _ opens => ?_, List.suffix_refl _⟩
      rcases opens with ⟨_, _, _, same, -, -⟩
      cases same
      exact other rfl
  · rename_i short
    cases read
    refine ⟨notLow, fun _ opens => ?_, List.suffix_refl _⟩
    rcases opens with ⟨_, _, _, same, -, -⟩
    exact short _ _ _ same

/-- A low surrogate is read only from its own escape, and a high one not in front of such an
escape. -/
theorem readEscape_ok {after : Text} (read : readEscape opening (0x5C :: rest) = .ok (c, after)) :
    (c.isLowSurrogate = true → OpensLow (0x5C :: rest)) ∧
      (c.isHighSurrogate = true → ¬OpensLow after) ∧ after <:+ rest := by
  unfold readEscape at read
  split at read
  · rename_i letter tail same
    rcases List.cons.inj same with ⟨-, rfl⟩
    split at read
    · rename_i isU
      rcases eq_of_beq isU with rfl
      split at read
      · rename_i point left found
        have suffix : left <:+ 0x75 :: tail :=
          (suffix_of_readUnicodeEscape found).trans (List.suffix_cons ..)
        split at read
        · rename_i isHigh
          rcases readPair_ok isHigh read with ⟨notLow, alone, shorter⟩
          refine ⟨fun isLow => ?_, alone, shorter.trans suffix⟩
          rw [notLow] at isLow
          exact nomatch isLow
        · rename_i notHigh
          cases read
          exact ⟨fun isLow => ⟨tail, c, after, rfl, found, isLow⟩,
            fun isHigh => absurd isHigh notHigh, suffix⟩
      · exact nomatch read
    · split at read
      · rename_i point found
        cases read
        have scalar := CodePoint.halves_of_not_surrogate (not_surrogate_of_shortEscape? found)
        simp [scalar, List.suffix_cons]
      · exact nomatch read
  · exact nomatch read

/-- What is read from a text without surrogates has none that form a pair; one that it starts with
was escaped. -/
theorem readString_ok {rounds : Nat} {found : Text} (scalar : text.isScalar = true)
    (read : readString opening rounds decoded text = .ok (found, rest)) :
    rest <:+ text ∧ ∃ more, found = decoded.reverse ++ more ∧ more.isUnpaired = true ∧
      ∀ low ∈ more.head?, low.isLowSurrogate = true → OpensLow text := by
  induction rounds generalizing decoded text with
  | zero => exact nomatch read
  | succ rounds ih =>
      cases text with
      | nil => exact nomatch read
      | cons c tail =>
          rw [Text.isScalar_cons] at scalar
          rw [readString] at read
          split at read
          · cases read
            exact ⟨List.suffix_cons .., [], by simp, rfl, by simp⟩
          split at read
          · rename_i isBackslash
            rcases eq_of_beq isBackslash with rfl
            split at read
            · rename_i point after escape
              rcases readEscape_ok escape with ⟨opens, alone, suffix⟩
              rcases ih (Text.isScalar_of_suffix suffix scalar.2) read with
                ⟨shorter, more, rfl, unpaired, first⟩
              refine ⟨(shorter.trans suffix).trans (List.suffix_cons ..), point :: more, by simp,
                Text.isUnpaired_cons unpaired fun isHigh low isFirst => ?_, ?_⟩
              · exact Bool.eq_false_iff.mpr fun isLow => alone isHigh (first low isFirst isLow)
              · intro low same isLow
                rcases Option.some.inj same with rfl
                exact opens isLow
            · exact nomatch read
          split at read
          · exact nomatch read
          · rcases ih scalar.2 read with ⟨shorter, more, rfl, unpaired, -⟩
            have halves := CodePoint.halves_of_not_surrogate scalar.1
            refine ⟨shorter.trans (List.suffix_cons ..), c :: more, by simp,
              Text.isUnpaired_cons unpaired fun isHigh => ?_, ?_⟩
            · rw [halves.1] at isHigh
              exact nomatch isHigh
            · intro low same isLow
              rcases Option.some.inj same with rfl
              rw [halves.2] at isLow
              exact nomatch isLow

/-- A string that is read from a text without surrogates has none that form a pair. -/
theorem readQuoted_ok {rounds : Nat} {found : Text} (scalar : text.isScalar = true)
    (read : readQuoted rounds text = .ok (found, rest)) :
    rest <:+ text ∧ found.isUnpaired = true := by
  have tail : text.tail <:+ text := List.tail_suffix text
  rcases readString_ok (Text.isScalar_of_suffix tail scalar) read with
    ⟨suffix, more, rfl, unpaired, -⟩
  exact ⟨suffix.trans tail, by simpa using unpaired⟩

end Json

end SocialMigration
