import Mathlib.Data.List.Forall2
import SocialMigration.Proofs.Text.Surrogate
import SocialMigration.Text.Utf8

/-!
# UTF-8 there and back

Strict decoding yields a text from the bytes of that text and from no others, and it yields every
text without surrogates. What one round takes off the front of a byte sequence is the form of a
code point, a first byte with bytes after it between the bounds that it fixes; and these forms are
exactly the ones that are written.
-/

namespace SocialMigration

namespace Utf8

/-- Whether a byte lies between two bounds. -/
def Between (byte : UInt8) (bounds : Nat × Nat) : Prop :=
  bounds.1 ≤ byte.toNat ∧ byte.toNat ≤ bounds.2

/-- The number that the bits of a first byte and the bytes after it make. -/
def gathered (bits : Nat) (others : List UInt8) : Nat :=
  others.foldl (fun n byte => n * 64 + byte.toNat % 64) bits

/-- Whether a first byte and the bytes after it are the form of a code point. -/
def Forms (c : CodePoint) (first : UInt8) (others : List UInt8) : Prop :=
  ∃ bits bounds, lead? first = some (bits, bounds) ∧ List.Forall₂ Between others bounds ∧
    c = .ofNat (gathered bits others)

variable {first : UInt8} {bytes others rest after : List UInt8} {c : CodePoint}
  {text decoded : Text}

/-! ## One code point -/

theorem follow_eq_point_iff {bits : Nat} {seen : List UInt8} {bounds : List (Nat × Nat)} :
    follow bits seen bounds bytes = .point c after ↔
      ∃ others, bytes = others ++ after ∧ List.Forall₂ Between others bounds ∧
        c = .ofNat (gathered bits others) := by
  induction bounds generalizing bits seen bytes with
  | nil =>
      simp only [follow, Front.point.injEq, List.forall₂_nil_right_iff]
      constructor
      · rintro ⟨rfl, rfl⟩
        exact ⟨[], rfl, rfl, rfl⟩
      · rintro ⟨_, rfl, rfl, rfl⟩
        exact ⟨rfl, rfl⟩
  | cons bound bounds ih =>
      simp only [List.forall₂_cons_right_iff]
      cases bytes with
      | nil =>
          constructor
          · intro followed
            exact nomatch followed
          · rintro ⟨_, impossible, ⟨_, _, -, -, rfl⟩, -⟩
            exact nomatch impossible
      | cons byte rest =>
          rw [follow]
          split
          · rename_i between
            rw [Bool.and_eq_true, decide_eq_true_eq, decide_eq_true_eq] at between
            rw [ih]
            constructor
            · rintro ⟨others, rfl, inside, rfl⟩
              exact ⟨byte :: others, rfl, ⟨byte, others, between, inside, rfl⟩, rfl⟩
            · rintro ⟨_, same, ⟨_, others, -, inside, rfl⟩, rfl⟩
              rcases List.cons.inj same with ⟨rfl, rfl⟩
              exact ⟨others, rfl, inside, rfl⟩
          · rename_i apart
            constructor
            · intro followed
              exact nomatch followed
            · rintro ⟨_, same, ⟨_, others, between, -, rfl⟩, -⟩
              rcases List.cons.inj same with ⟨rfl, -⟩
              rw [Between] at between
              simp [between] at apart

/-- What is taken off the front of a byte sequence is the form of a code point. -/
theorem front_eq_point_iff :
    front first rest = .point c after ↔
      ∃ others, rest = others ++ after ∧ Forms c first others := by
  rw [front]
  cases lead : lead? first with
  | none => simp [Forms, lead]
  | some found =>
      rcases found with ⟨bits, bounds⟩
      rw [follow_eq_point_iff]
      constructor
      · rintro ⟨others, same, inside, number⟩
        exact ⟨others, same, bits, bounds, lead, inside, number⟩
      · rintro ⟨others, same, bits', bounds', lead', inside, number⟩
        rcases Prod.mk.inj (Option.some.inj (lead.symm.trans lead')) with ⟨rfl, rfl⟩
        exact ⟨others, same, inside, number⟩

section Written

variable {a b d e : UInt8} {n : Nat}

theorem ofNat_eq_of_toNat (same : n = a.toNat) : UInt8.ofNat n = a := by
  rw [same, UInt8.ofNat_toNat]

theorem written_one (number : n = a.toNat) (short : n < 0x80) :
    (CodePoint.ofNat n).isSurrogate = false ∧ encodePoint (.ofNat n) = [a] := by
  have value : (CodePoint.ofNat n).val = n := CodePoint.val_ofNat (by omega)
  refine ⟨CodePoint.isSurrogate_ofNat (by omega), ?_⟩
  simp only [encodePoint, value, if_pos short]
  rw [ofNat_eq_of_toNat number]

theorem written_two (number : n = (a.toNat - 0xC0) * 64 + b.toNat % 64)
    (lead : 0xC2 ≤ a.toNat ∧ a.toNat < 0xE0) (second : 0x80 ≤ b.toNat ∧ b.toNat ≤ 0xBF) :
    (CodePoint.ofNat n).isSurrogate = false ∧ encodePoint (.ofNat n) = [a, b] := by
  have value : (CodePoint.ofNat n).val = n := CodePoint.val_ofNat (by omega)
  refine ⟨CodePoint.isSurrogate_ofNat (by omega), ?_⟩
  simp only [encodePoint, value]
  rw [if_neg (by omega), if_pos (by omega), @ofNat_eq_of_toNat a _ (by omega),
    @ofNat_eq_of_toNat b _ (by omega)]

theorem written_three (number : n = ((a.toNat - 0xE0) * 64 + b.toNat % 64) * 64 + d.toNat % 64)
    (lead : 0xE0 ≤ a.toNat ∧ a.toNat < 0xF0) (second : 0x80 ≤ b.toNat ∧ b.toNat ≤ 0xBF)
    (third : 0x80 ≤ d.toNat ∧ d.toNat ≤ 0xBF) (long : 0x800 ≤ n)
    (scalar : n < 0xD800 ∨ 0xDFFF < n) :
    (CodePoint.ofNat n).isSurrogate = false ∧ encodePoint (.ofNat n) = [a, b, d] := by
  have value : (CodePoint.ofNat n).val = n := CodePoint.val_ofNat (by omega)
  refine ⟨CodePoint.isSurrogate_ofNat scalar, ?_⟩
  simp only [encodePoint, value]
  rw [if_neg (by omega), if_neg (by omega), if_pos (by omega), @ofNat_eq_of_toNat a _ (by omega),
    @ofNat_eq_of_toNat b _ (by omega), @ofNat_eq_of_toNat d _ (by omega)]

theorem written_four
    (number : n = (((a.toNat - 0xF0) * 64 + b.toNat % 64) * 64 + d.toNat % 64) * 64 + e.toNat % 64)
    (lead : 0xF0 ≤ a.toNat) (second : 0x80 ≤ b.toNat ∧ b.toNat ≤ 0xBF)
    (third : 0x80 ≤ d.toNat ∧ d.toNat ≤ 0xBF) (fourth : 0x80 ≤ e.toNat ∧ e.toNat ≤ 0xBF)
    (long : 0x10000 ≤ n) (bound : n < 0x110000) :
    (CodePoint.ofNat n).isSurrogate = false ∧ encodePoint (.ofNat n) = [a, b, d, e] := by
  have value : (CodePoint.ofNat n).val = n := CodePoint.val_ofNat bound
  refine ⟨CodePoint.isSurrogate_ofNat (by omega), ?_⟩
  simp only [encodePoint, value]
  rw [if_neg (by omega), if_neg (by omega), if_neg (by omega), @ofNat_eq_of_toNat a _ (by omega),
    @ofNat_eq_of_toNat b _ (by omega), @ofNat_eq_of_toNat d _ (by omega),
    @ofNat_eq_of_toNat e _ (by omega)]

end Written

/-- The form of a code point is what is written for it, and the code point is no surrogate. -/
theorem Forms.written (forms : Forms c first others) :
    c.isSurrogate = false ∧ encodePoint c = first :: others := by
  rcases forms with ⟨bits, bounds, lead, inside, rfl⟩
  generalize number : gathered bits others = n
  simp only [lead?, beq_iff_eq] at lead
  repeat' split at lead
  all_goals
    simp only [reduceCtorEq, Option.some.injEq, Prod.mk.injEq] at lead
  all_goals
    rcases lead with ⟨rfl, rfl⟩
  · rcases inside with _ | _
    simp only [gathered, List.foldl] at number
    exact written_one number.symm (by omega)
  · rcases inside with _ | ⟨second, _ | _⟩
    exact written_two number.symm (by omega) second
  iterate 3
    · rcases inside with _ | ⟨second, _ | ⟨third, _ | _⟩⟩
      simp only [Between, gathered, List.foldl] at second third number
      exact written_three (by omega) (by omega) (by omega) third (by omega) (by omega)
  all_goals
    rcases inside with _ | ⟨second, _ | ⟨third, _ | ⟨fourth, _ | _⟩⟩⟩
    simp only [Between, gathered, List.foldl] at second third fourth number
    exact written_four (by omega) (by omega) (by omega) third fourth (by omega) (by omega)

theorem lead?_of_one (most : first.toNat < 0x80) : lead? first = some (first.toNat, []) := by
  simp [lead?, most]

theorem lead?_of_two (least : 0xC2 ≤ first.toNat) (most : first.toNat < 0xE0) :
    lead? first = some (first.toNat - 0xC0, [(0x80, 0xBF)]) := by
  simp only [lead?]
  rw [if_neg (by omega), if_neg (by omega), if_pos most]

theorem lead?_of_three (least : 0xE0 ≤ first.toNat) (most : first.toNat < 0xF0) :
    lead? first = some (first.toNat - 0xE0,
      [(if first.toNat = 0xE0 then 0xA0 else 0x80, if first.toNat = 0xED then 0x9F else 0xBF),
        (0x80, 0xBF)]) := by
  simp only [lead?, beq_iff_eq]
  rw [if_neg (by omega), if_neg (by omega), if_neg (by omega)]
  grind

theorem lead?_of_four (least : 0xF0 ≤ first.toNat) (most : first.toNat ≤ 0xF4) :
    lead? first = some (first.toNat - 0xF0,
      [(if first.toNat = 0xF0 then 0x90 else 0x80, if first.toNat = 0xF4 then 0x8F else 0xBF),
        (0x80, 0xBF), (0x80, 0xBF)]) := by
  simp only [lead?, beq_iff_eq]
  rw [if_neg (by omega), if_neg (by omega), if_neg (by omega), if_neg (by omega),
    if_neg (by omega), if_neg (by omega)]
  grind

theorem toNat_ofNat {n : Nat} (small : n < 0x100) : (UInt8.ofNat n).toNat = n :=
  UInt8.toNat_ofNat_of_lt small

theorem between_of_rest {n : Nat} (number : first.toNat = 0x80 + n % 64) :
    Between first (0x80, 0xBF) := by
  simp only [Between]
  omega

/-- What is written for a code point that is no surrogate is its form. -/
theorem forms_of_written (scalar : c.isSurrogate = false)
    (written : encodePoint c = first :: others) : Forms c first others := by
  rw [CodePoint.isSurrogate_eq_false_iff] at scalar
  have bound := c.isLt
  have number : c = .ofNat c.val := (CodePoint.ofNat_val c).symm
  simp only [encodePoint] at written
  generalize c.val = n at scalar bound number written
  have third := @toNat_ofNat (0x80 + n / 64 % 64) (by omega)
  have fourth := @toNat_ofNat (0x80 + n % 64) (by omega)
  rw [number]
  split at written
  · rcases List.cons.inj written with ⟨rfl, rfl⟩
    have lead := @toNat_ofNat n (by omega)
    exact ⟨_, _, lead?_of_one (by omega), .nil, congrArg _ lead.symm⟩
  split at written
  · rcases List.cons.inj written with ⟨rfl, rfl⟩
    have lead := @toNat_ofNat (0xC0 + n / 64) (by omega)
    refine ⟨_, _, lead?_of_two (by omega) (by omega), .cons (between_of_rest fourth) .nil, ?_⟩
    simp only [gathered, List.foldl]
    exact congrArg _ (by omega)
  split at written
  · rcases List.cons.inj written with ⟨rfl, rfl⟩
    have lead := @toNat_ofNat (0xE0 + n / 4096) (by omega)
    refine ⟨_, _, lead?_of_three (by omega) (by omega),
      .cons ?_ (.cons (between_of_rest fourth) .nil), ?_⟩
    · simp only [Between]
      grind
    · simp only [gathered, List.foldl]
      exact congrArg _ (by omega)
  · rcases List.cons.inj written with ⟨rfl, rfl⟩
    have lead := @toNat_ofNat (0xF0 + n / 262144) (by omega)
    have second := @toNat_ofNat (0x80 + n / 4096 % 64) (by omega)
    refine ⟨_, _, lead?_of_four (by omega) (by omega),
      .cons ?_ (.cons (between_of_rest third) (.cons (between_of_rest fourth) .nil)), ?_⟩
    · simp only [Between]
      grind
    · simp only [gathered, List.foldl]
      exact congrArg _ (by omega)

theorem forms_iff :
    Forms c first others ↔ c.isSurrogate = false ∧ encodePoint c = first :: others :=
  ⟨Forms.written, fun written => forms_of_written written.1 written.2⟩

/-! ## Texts -/

theorem encodePoint_ne_nil (c : CodePoint) : encodePoint c ≠ [] := by
  simp only [encodePoint]
  repeat' split
  all_goals exact List.cons_ne_nil _ _

@[simp] theorem encode_nil : encode [] = [] := rfl

@[simp] theorem encode_cons : encode (c :: text) = encodePoint c ++ encode text :=
  List.flatMap_cons

/-- A text of ASCII has as many bytes as code points. -/
theorem length_encode_of_ascii (ascii : ∀ c ∈ text, c.val < 0x80) :
    (encode text).length = text.length := by
  induction text with
  | nil => rfl
  | cons c text ih =>
      rw [List.forall_mem_cons] at ascii
      have one : encodePoint c = [.ofNat c.val] := if_pos ascii.1
      rw [encode_cons, one, List.length_append, ih ascii.2, List.length_singleton,
        List.length_cons, Nat.add_comm]

/-- A text is decoded from its bytes, if it has no surrogates. -/
theorem decodeFrom_encode (scalar : text.isScalar = true) {rounds : Nat}
    (enough : (encode text).length ≤ rounds) :
    decodeFrom rounds decoded (encode text) = .ok (decoded.reverse ++ text) := by
  induction text generalizing decoded rounds with
  | nil => cases rounds <;> simp [decodeFrom]
  | cons c text ih =>
      rcases Text.isScalar_cons.mp scalar with ⟨point, scalar⟩
      cases written : encodePoint c with
      | nil => exact absurd written (encodePoint_ne_nil c)
      | cons first others =>
          rw [encode_cons, written, List.cons_append] at enough ⊢
          have read : front first (others ++ encode text) = .point c (encode text) :=
            front_eq_point_iff.mpr ⟨others, rfl, forms_iff.mpr ⟨point, written⟩⟩
          cases rounds with
          | zero => exact absurd enough (Nat.not_succ_le_zero _)
          | succ rounds =>
              rw [List.length_cons, List.length_append] at enough
              have left : (encode text).length ≤ rounds := by omega
              simp [decodeFrom, read, ih scalar left]

/-- Bytes from which a text is decoded are those of the text, and it has no surrogates. -/
theorem encode_of_decodeFrom {rounds : Nat} (enough : bytes.length ≤ rounds)
    (read : decodeFrom rounds decoded bytes = .ok text) :
    ∃ more, text = decoded.reverse ++ more ∧ more.isScalar = true ∧ encode more = bytes := by
  induction rounds generalizing decoded bytes with
  | zero =>
      cases read
      rcases List.eq_nil_of_length_eq_zero (Nat.le_zero.mp enough) with rfl
      exact ⟨[], by simp, rfl, rfl⟩
  | succ rounds ih =>
      cases bytes with
      | nil =>
          cases read
          exact ⟨[], by simp, rfl, rfl⟩
      | cons first rest =>
          rw [decodeFrom] at read
          split at read
          · rename_i c after found
            rcases front_eq_point_iff.mp found with ⟨others, rfl, forms⟩
            rw [List.length_cons, List.length_append] at enough
            rcases ih (by omega) read with ⟨more, rfl, scalar, rfl⟩
            rcases forms.written with ⟨point, written⟩
            refine ⟨c :: more, by simp, Text.isScalar_cons.mpr ⟨point, scalar⟩, ?_⟩
            rw [encode_cons, written, List.cons_append]
          · exact nomatch read

/-- Strict decoding yields a text just from the bytes of that text, and it yields every text without
surrogates. -/
theorem decode_eq_ok_iff :
    decode bytes = .ok text ↔ text.isScalar = true ∧ encode text = bytes := by
  constructor
  · intro read
    rw [decode] at read
    cases found : decodeFrom bytes.length [] bytes with
    | error bad => exact nomatch (found ▸ read)
    | ok decoded =>
        rw [found] at read
        cases read
        rcases encode_of_decodeFrom (Nat.le_refl _) found with ⟨_, rfl, encoded⟩
        exact encoded
  · rintro ⟨scalar, rfl⟩
    rw [decode, decodeFrom_encode scalar (Nat.le_refl _)]
    rfl

end Utf8

end SocialMigration
