import Mathlib
import SocialMigration.Proofs.Json.RoundTrip
import SocialMigration.Proofs.Rpc.Response

/-!
# Answers read back

A value comes through a response as it is: from the bytes of its text, whichever of its characters
the contract escapes in it. A value that is nested deeper than the reader can go does not come
through at all.
-/

namespace SocialMigration

namespace Rpc

/-- The response whose result is the UTF-8 form of a text. -/
def answering (text : Text) : Json :=
  let bytes := (Utf8.encode text).map fun byte => Json.int byte.toNat
  .obj [("result", .obj [("result", .arr bytes), ("logs", .arr [])])]

theorem holds_answering (text : Text) :
    Holds (answering text) (.arr ((Utf8.encode text).map fun byte => .int byte.toNat)) := by
  refine .intro rfl rfl ?_ rfl
  intro error found
  cases found

theorem standsFor_encoded (text : Text) :
    List.Forall₂ StandsFor ((Utf8.encode text).map fun byte => .int byte.toNat)
      (Utf8.encode text) := by
  rw [List.forall₂_map_left_iff, List.forall₂_same]
  exact fun _ _ => .int

section

variable [Platform] {value : Json} {text : Text}

/-- What is read of the text whose bytes a response holds is what comes of the response. -/
theorem valueOfResponse_answering (scalar : text.isScalar = true) :
    valueOfResponse (answering text) =
      (Json.read Platform.resultRoom text).mapError .ofUnread := by
  rw [(holds_answering text).valueOfResponse_eq, bytesOfResult,
    bytesOfItems_eq_ok_iff.mpr (standsFor_encoded text)]
  exact valueOfBytes_encode scalar

/-- Whatever is queried, a value that is not nested too deep comes back from the bytes of its
written form; and if no surrogate occurs in it, also from those of its text without blanks in which
only those characters are escaped that have to be. -/
theorem answer_reads_back (query : Query) (doubleFree : value.isFloatFree = true)
    (legible : value.isLegible = true) (fits : value.nesting ≤ Platform.resultRoom) :
    (valueOfResponse (answering value.toText)).mapError (failureOfResponse query) = .ok value ∧
      (value.isScalar = true →
        (valueOfResponse (answering (value.spelled .raw .compact))).mapError
          (failureOfResponse query) = .ok value) := by
  constructor
  · have plain := Json.Layout.isBlank_spaced
    rw [Json.toText, Json.written_eq,
      valueOfResponse_answering (Json.isScalar_spelled_escaping plain doubleFree),
      Json.read_spelled .escaping plain doubleFree legible fits]
    rfl
  · intro scalar
    have plain := Json.Layout.isBlank_compact
    rw [valueOfResponse_answering (Json.isScalar_spelled_raw plain doubleFree scalar),
      Json.read_spelled .raw plain doubleFree legible fits]
    rfl

/-- A value for which the reader has no room is not read from the bytes of its written form, nor
from those of its text without blanks. -/
theorem answer_too_deep (query : Query) (doubleFree : value.isFloatFree = true)
    (legible : value.isLegible = true) (deep : Platform.resultRoom < value.nesting) :
    (∃ opened, (valueOfResponse (answering value.toText)).mapError (failureOfResponse query) =
        .error (.unread opened)) ∧
      (value.isScalar = true →
        ∃ opened, (valueOfResponse (answering (value.spelled .raw .compact))).mapError
          (failureOfResponse query) = .error (.unread opened)) := by
  constructor
  · have plain := Json.Layout.isBlank_spaced
    rcases Json.read_spelled_of_lt .escaping plain doubleFree legible deep with ⟨opened, stopped⟩
    refine ⟨opened, ?_⟩
    rw [Json.toText, Json.written_eq,
      valueOfResponse_answering (Json.isScalar_spelled_escaping plain doubleFree), stopped]
    rfl
  · intro scalar
    have plain := Json.Layout.isBlank_compact
    rcases Json.read_spelled_of_lt .raw plain doubleFree legible deep with ⟨opened, stopped⟩
    refine ⟨opened, ?_⟩
    rw [valueOfResponse_answering (Json.isScalar_spelled_raw plain doubleFree scalar), stopped]
    rfl

end

attribute [local instance] Platform.accepting Platform.printsAll_accepting

/-- A value with characters of each length in bytes, one that has to be escaped, and an integer of
more than sixty-four bits. -/
def variedAnswer : Json :=
  .obj [([0xE9, 0x22], .arr [.str [0x1F600, 0x0A, 0x7F, 0x20AC], .int (-18446744073709551616)]),
    ([], .obj [([0x61], .bool true), ([0x62], .null)])]

theorem answer_reads_back_varied :
    variedAnswer.isFloatFree = true ∧ variedAnswer.isLegible = true ∧
      variedAnswer.nesting ≤ Platform.resultRoom ∧ variedAnswer.isScalar = true ∧
      let query : Query := ⟨"src.near", "get_nodes", none⟩
      (valueOfResponse (answering variedAnswer.toText)).mapError (failureOfResponse query) =
          .ok variedAnswer ∧
        (valueOfResponse (answering (variedAnswer.spelled .raw .compact))).mapError
          (failureOfResponse query) = .ok variedAnswer := by
  have doubleFree : variedAnswer.isFloatFree = true := rfl
  have legible : variedAnswer.isLegible = true := by decide
  have fits : variedAnswer.nesting ≤ Platform.resultRoom := by decide
  have scalar : variedAnswer.isScalar = true := by decide
  rcases answer_reads_back ⟨"src.near", "get_nodes", none⟩ doubleFree legible fits with
    ⟨written, raw⟩
  exact ⟨doubleFree, legible, fits, scalar, written, raw scalar⟩

example : variedAnswer.spelled .raw .compact =
    ("\x7b\"é\\\"\":[\"😀\\n\x7f€\",-18446744073709551616]," : Text) ++
      "\"\":\x7b\"a\":true,\"b\":null\x7d\x7d" := by
  cbv

end Rpc

end SocialMigration
