import SocialMigration.Text.Base64

/-!
# Base64 and bytes

The base64 text of a byte sequence consists of whole groups of four characters, with padding at the
end only, and its bytes are decoded from it. The proofs go by groups of three bytes; at the end no
bytes are left, one or two of them.
-/

namespace SocialMigration

namespace Base64

/-- Padded base64 text: groups of four characters of the alphabet, of which the last one may lack
one or two characters and is then filled up. -/
inductive IsPadded : Text → Prop where
  | nil : IsPadded []
  | one {a b : CodePoint} (alphabet : ∀ c ∈ [a, b], (number? c).isSome) :
      IsPadded [a, b, 0x3D, 0x3D]
  | two {a b c : CodePoint} (alphabet : ∀ d ∈ [a, b, c], (number? d).isSome) :
      IsPadded [a, b, c, 0x3D]
  | group {a b c d : CodePoint} {rest : Text} (alphabet : ∀ e ∈ [a, b, c, d], (number? e).isSome)
      (padded : IsPadded rest) : IsPadded (a :: b :: c :: d :: rest)

/-- The alphabet has a character for each number below sixty-four, and padding is none of them. -/
theorem character_facts : ∀ n < 64,
    number? (character n) = some n ∧ (character n == 0x3D) = false := by
  decide

theorem number?_character {n : Nat} (small : n < 64) : number? (character n) = some n :=
  (character_facts n small).1

theorem character_ne_padding {n : Nat} (small : n < 64) : (character n == 0x3D) = false :=
  (character_facts n small).2

theorem isSome_character {numbers : List Nat} (small : ∀ n ∈ numbers, n < 64) :
    ∀ c ∈ numbers.map character, (number? c).isSome := by
  intro c member
  rcases List.mem_map.mp member with ⟨n, inside, rfl⟩
  rw [number?_character (small n inside)]
  rfl

theorem isPadded_encode (bytes : List UInt8) : IsPadded (encode bytes) := by
  fun_induction encode bytes with
  | case1 => exact .nil
  | case2 a n =>
      have small : ∀ sextet ∈ [n / 4, n % 4 * 16], sextet < 64 := by
        have := a.toNat_lt
        simp only [List.forall_mem_cons, n]
        grind
      exact .one (isSome_character small)
  | case3 a b n =>
      have small : ∀ sextet ∈ [n / 1024, n / 16 % 64, n % 16 * 4], sextet < 64 := by
        have := a.toNat_lt
        have := b.toNat_lt
        simp only [List.forall_mem_cons, n]
        grind
      exact .two (isSome_character small)
  | case4 a b c rest n ih =>
      have small : ∀ sextet ∈ [n / 262144, n / 4096 % 64, n / 64 % 64, n % 64], sextet < 64 := by
        have := a.toNat_lt
        have := b.toNat_lt
        have := c.toNat_lt
        simp only [List.forall_mem_cons, n]
        grind
      exact .group (isSome_character small) ih

theorem ascii_of_number? {c : CodePoint} (alphabet : (number? c).isSome) : c.val < 0x80 := by
  rw [number?] at alphabet
  split at alphabet
  · rename_i upper
    simp only [Bool.and_eq_true, decide_eq_true_eq] at upper
    omega
  split at alphabet
  · rename_i lower
    simp only [Bool.and_eq_true, decide_eq_true_eq] at lower
    omega
  split at alphabet
  · rename_i digit
    simp only [Bool.and_eq_true, decide_eq_true_eq] at digit
    omega
  split at alphabet
  · rename_i plus
    rw [eq_of_beq plus]
    decide
  split at alphabet
  · rename_i slash
    rw [eq_of_beq slash]
    decide
  · cases alphabet

/-- Padded base64 text is ASCII. -/
theorem IsPadded.ascii {text : Text} (padded : IsPadded text) :
    text.all (·.val < 0x80) = true := by
  have filled {front : Text} (alphabet : ∀ c ∈ front, (number? c).isSome) {rest : Text}
      (ascii : rest.all (·.val < 0x80) = true) : (front ++ rest).all (·.val < 0x80) = true := by
    rw [List.all_append, ascii, Bool.and_true, List.all_eq_true]
    exact fun c member => decide_eq_true (ascii_of_number? (alphabet c member))
  induction padded with
  | nil => rfl
  | one alphabet => exact filled alphabet rfl
  | two alphabet => exact filled alphabet rfl
  | group alphabet padded ih => exact filled alphabet ih

/-! ## Decoding -/

variable {a b c d : Nat}

theorem decode?_one (first : a < 64) (second : b < 64) :
    decode? [character a, character b, 0x3D, 0x3D] = some [.ofNat ((a * 64 + b) / 16)] := by
  simp [decode?, number?_character first, number?_character second]

theorem decode?_two (first : a < 64) (second : b < 64) (third : c < 64) :
    decode? [character a, character b, character c, 0x3D] =
      some [.ofNat (((a * 64 + b) * 64 + c) / 1024), .ofNat (((a * 64 + b) * 64 + c) / 4)] := by
  simp [decode?, number?_character first, number?_character second, number?_character third,
    beq_eq_false_iff_ne.mp (character_ne_padding third)]

/-- Four characters without padding give three bytes in front of those of the rest. -/
theorem decode?_group (first : a < 64) (second : b < 64) (third : c < 64) (fourth : d < 64)
    {rest : Text} {bytes : List UInt8} (after : decode? rest = some bytes) :
    let n := ((a * 64 + b) * 64 + c) * 64 + d
    decode? (character a :: character b :: character c :: character d :: rest) =
      some (.ofNat (n / 65536) :: .ofNat (n / 256) :: .ofNat n :: bytes) := by
  simp [decode?, number?_character first, number?_character second, number?_character third,
    number?_character fourth, character_ne_padding fourth, after]

/-- A number stands for the byte that it is but for multiples of 256. -/
theorem ofNat_of_mod {n : Nat} {byte : UInt8} (same : n % 256 = byte.toNat) :
    UInt8.ofNat n = byte := by
  apply UInt8.toNat_inj.mp
  simpa using same

/-- Bytes are decoded from their base64 text. -/
theorem decode?_encode (bytes : List UInt8) : decode? (encode bytes) = some bytes := by
  fun_induction encode bytes with
  | case1 => rfl
  | case2 a n =>
      have bound := a.toNat_lt
      rw [decode?_one (by omega) (by omega), ofNat_of_mod]
      omega
  | case3 a b n =>
      have bounds := And.intro a.toNat_lt b.toNat_lt
      rw [decode?_two (by omega) (by omega) (by omega), ofNat_of_mod, ofNat_of_mod]
      all_goals omega
  | case4 a b c rest n ih =>
      have bounds := And.intro a.toNat_lt (And.intro b.toNat_lt c.toNat_lt)
      rw [decode?_group (by omega) (by omega) (by omega) (by omega) ih, ofNat_of_mod, ofNat_of_mod,
        ofNat_of_mod]
      all_goals omega

/-- Different bytes have different base64 texts. -/
theorem encode_injective {first second : List UInt8} (same : encode first = encode second) :
    first = second := by
  have decoded := congrArg decode? same
  rw [decode?_encode, decode?_encode] at decoded
  exact Option.some.inj decoded

end Base64

end SocialMigration
