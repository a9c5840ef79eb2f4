import SocialMigration.Text.Unencodable

/-!
# Surrogates in texts

A text that UTF-8 has a form for has no surrogates. A text that comes out of a JSON string may have
some, but none that form a pair, because the reader makes one code point of a pair.
-/

namespace SocialMigration

namespace CodePoint

theorem isSurrogate_eq_false_iff {c : CodePoint} :
    c.isSurrogate = false ↔ c.val < 0xD800 ∨ 0xDFFF < c.val := by
  simp only [isSurrogate, isHighSurrogate, isLowSurrogate, Bool.or_eq_false_iff,
    Bool.and_eq_false_iff, decide_eq_false_iff_not]
  omega

/-- A code point outside the surrogates is neither half of a pair. -/
theorem halves_of_not_surrogate {c : CodePoint} (scalar : c.isSurrogate = false) :
    c.isHighSurrogate = false ∧ c.isLowSurrogate = false :=
  Bool.or_eq_false_iff.mp scalar

/-- No code point is both halves of a pair. -/
theorem isLowSurrogate_of_high {c : CodePoint} (high : c.isHighSurrogate = true) :
    c.isLowSurrogate = false := by
  simp only [isHighSurrogate, isLowSurrogate, Bool.and_eq_true, decide_eq_true_eq,
    Bool.and_eq_false_iff, decide_eq_false_iff_not] at high ⊢
  omega

theorem isSurrogate_ofNat {n : Nat} (outside : n < 0xD800 ∨ 0xDFFF < n) :
    (ofNat n).isSurrogate = false := by
  rw [isSurrogate_eq_false_iff]
  by_cases bound : n < 0x110000
  · rwa [val_ofNat bound]
  · rw [ofNat, dif_neg bound]
    exact .inr (by decide)

end CodePoint

namespace Text

/-- Whether no surrogate occurs in a text. -/
def isScalar (text : Text) : Bool :=
  text.all (!·.isSurrogate)

/-- Whether no surrogates of a text form a pair, that is, no low one follows right after a high
one. -/
def isUnpaired : Text → Bool
  | first :: second :: rest =>
    !(first.isHighSurrogate && second.isLowSurrogate) && isUnpaired (second :: rest)
  | _ => true

variable {text front : Text} {c : CodePoint}

@[simp] theorem isScalar_nil : isScalar [] = true := rfl

@[simp] theorem isScalar_cons :
    isScalar (c :: text) = true ↔ c.isSurrogate = false ∧ text.isScalar = true := by
  simp [isScalar]

@[simp] theorem isScalar_append :
    isScalar (front ++ text) = true ↔ front.isScalar = true ∧ text.isScalar = true := by
  simp [isScalar]

theorem isScalar_of_suffix (suffix : front <:+ text) (scalar : text.isScalar = true) :
    front.isScalar = true := by
  simp only [isScalar, List.all_eq_true] at scalar ⊢
  exact fun c member => scalar c (suffix.subset member)

/-- A code point may stand in front of an unpaired text if the two do not begin with a pair. -/
theorem isUnpaired_cons (unpaired : text.isUnpaired = true)
    (apart : c.isHighSurrogate = true → ∀ low ∈ text.head?, low.isLowSurrogate = false) :
    isUnpaired (c :: text) = true := by
  cases text with
  | nil => rfl
  | cons second rest =>
      rw [isUnpaired, unpaired, Bool.and_true, Bool.not_eq_true', Bool.and_eq_false_iff]
      cases high : c.isHighSurrogate with
      | false => exact .inl rfl
      | true => exact .inr (apart high second rfl)

/-- A text without surrogates has no pair of them. -/
theorem isUnpaired_of_isScalar (scalar : text.isScalar = true) : text.isUnpaired = true := by
  induction text with
  | nil => rfl
  | cons c text ih =>
      rw [isScalar_cons] at scalar
      have single := (CodePoint.halves_of_not_surrogate scalar.1).1
      exact isUnpaired_cons (ih scalar.2) fun high => absurd high (by simp [single])

theorem isUnpaired_tail (unpaired : isUnpaired (c :: text) = true) : text.isUnpaired = true := by
  cases text with
  | nil => rfl
  | cons second rest =>
      rw [isUnpaired, Bool.and_eq_true] at unpaired
      exact unpaired.2

theorem head_of_isUnpaired (unpaired : isUnpaired (c :: text) = true)
    (high : c.isHighSurrogate = true) : ∀ low ∈ text.head?, low.isLowSurrogate = false := by
  cases text with
  | nil => simp
  | cons second rest =>
      intro low first
      rcases Option.some.inj first with rfl
      simpa [isUnpaired, high] using And.left (Bool.and_eq_true_iff.mp unpaired)

end Text

end SocialMigration
