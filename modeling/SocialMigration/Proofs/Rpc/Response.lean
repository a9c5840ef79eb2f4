import SocialMigration.Proofs.Outcome
import SocialMigration.Proofs.Text.Utf8
import SocialMigration.Rpc.Client

/-!
# Well-formed responses

Which responses are accepted, and which value each of them carries. Only a list of bytes ever
carries one: a number and an object stand for bytes as well, but no JSON text comes of them. A
response that holds nothing in the place of that list has an error that is quoted, or none of the
parts that it should have.
-/

namespace SocialMigration

namespace Json

/-- The values that say nothing: null, false, zero, and the empty text, array and object. -/
inductive Falsy : Json → Prop where
  | null : Falsy null
  | bool : Falsy (bool false)
  | int : Falsy (int 0)
  | float {negative : Bool} {exponent : Int} : Falsy (float (.finite negative 0 exponent))
  | str : Falsy (str [])
  | arr : Falsy (arr [])
  | obj : Falsy (obj [])

theorem isVoid_iff {value : Json} : value.isVoid = true ↔ value.Falsy := by
  constructor
  · intro void
    cases value with
    | null => exact .null
    | bool value =>
        cases value with
        | false => exact .bool
        | true => exact nomatch void
    | int value =>
        rcases eq_of_beq void with rfl
        exact .int
    | float value =>
        cases value with
        | finite negative mantissa exponent =>
            rcases eq_of_beq void with rfl
            exact .float
        | infinite negative => exact nomatch void
        | nan => exact nomatch void
    | str text =>
        rcases List.isEmpty_iff.mp void with rfl
        exact .str
    | arr items =>
        rcases List.isEmpty_iff.mp void with rfl
        exact .arr
    | obj fields =>
        rcases List.isEmpty_iff.mp void with rfl
        exact .obj
  · intro falsy
    cases falsy <;> rfl

/-- A field says nothing if its value does, or if it is missing. -/
theorem isVoid_fieldOrNull {key : Text} {value : Json} :
    (value.fieldOrNull key).isVoid = true ↔
      ∀ part, value.field? key = some part → part.Falsy := by
  rw [fieldOrNull, isVoid_iff]
  cases found : value.field? key with
  | none => simp [Falsy.null]
  | some part => simp

theorem fieldOrNull_eq_iff {key : Text} {value part : Json} (present : part ≠ null) :
    value.fieldOrNull key = part ↔ value.field? key = some part := by
  rw [fieldOrNull]
  cases found : value.field? key with
  | none => simp [present.symm]
  | some other => simp

theorem fieldOrNull_of_said {key : Text} {value part : Json} (said : value.field? key = some part)
    (full : ¬part.Falsy) : value.fieldOrNull key = part ∧ part.isVoid = false := by
  rw [Bool.eq_false_iff, ne_eq, isVoid_iff]
  exact ⟨by rw [fieldOrNull, said]; rfl, full⟩

/-- An object without a part, or with one that says nothing, or with one that does. -/
theorem silent_or_said (key : Text) (value : Json) :
    (∀ part, value.field? key = some part → part.Falsy) ∨
      ∃ part, value.field? key = some part ∧ ¬part.Falsy := by
  cases found : value.field? key with
  | none => exact .inl nofun
  | some part =>
      by_cases falsy : part.Falsy
      · exact .inl fun other same => Option.some.inj same ▸ falsy
      · exact .inr ⟨part, rfl, falsy⟩

end Json

namespace Rpc

/-- Which byte an item of a list stands for: the one of its number; truth values count as one and
zero. -/
inductive StandsFor : Json → UInt8 → Prop where
  | int {byte : UInt8} : StandsFor (.int byte.toNat) byte
  | yes : StandsFor (.bool true) 1
  | no : StandsFor (.bool false) 0

/-- What a response holds in the place of its list of bytes. The response is an object without an
error; its result is an object of which the error is missing or says nothing, and holds this. -/
inductive Holds : Json → Json → Prop where
  | intro {fields inner : List (Text × Json)} {content : Json}
      (accepted : (Json.obj fields).field? "error" = none)
      (result : (Json.obj fields).field? "result" = some (.obj inner))
      (succeeded : ∀ error, (Json.obj inner).field? "error" = some error → error.Falsy)
      (found : (Json.obj inner).field? "result" = some content) :
      Holds (.obj fields) content

/-- Which error a response reports, and where it is put into words. The data of an error come before
its message, and one that has neither is quoted as a whole; the error of a contract counts only if
it says something. -/
inductive Reports : Json → Place → Json → Prop where
  | data {fields inner : List (Text × Json)} {data : Json}
      (failed : (Json.obj fields).field? "error" = some (.obj inner))
      (said : (Json.obj inner).field? "data" = some data) (full : ¬data.Falsy) :
      Reports (.obj fields) .detail data
  | message {fields inner : List (Text × Json)} {message : Json}
      (failed : (Json.obj fields).field? "error" = some (.obj inner))
      (noData : ∀ data, (Json.obj inner).field? "data" = some data → data.Falsy)
      (said : (Json.obj inner).field? "message" = some message) (full : ¬message.Falsy) :
      Reports (.obj fields) .detail message
  | whole {fields inner : List (Text × Json)}
      (failed : (Json.obj fields).field? "error" = some (.obj inner))
      (noData : ∀ data, (Json.obj inner).field? "data" = some data → data.Falsy)
      (noMessage : ∀ message, (Json.obj inner).field? "message" = some message → message.Falsy) :
      Reports (.obj fields) .nodeError (.obj inner)
  | plain {fields : List (Text × Json)} {error : Json}
      (failed : (Json.obj fields).field? "error" = some error)
      (flat : ∀ inner, error ≠ .obj inner) :
      Reports (.obj fields) .detail error
  | contract {fields inner : List (Text × Json)} {error : Json}
      (accepted : (Json.obj fields).field? "error" = none)
      (result : (Json.obj fields).field? "result" = some (.obj inner))
      (said : (Json.obj inner).field? "error" = some error) (full : ¬error.Falsy) :
      Reports (.obj fields) .detail error

/-- Whether a fault is beyond what a query fails for: a number is out of range, there is no room for
what it counts, or the stack ends. -/
def ResponseFault.isBeyond : ResponseFault → Bool
  | countTooLarge _ | tooDeep _ | unworded _ => true
  | _ => false

variable {response content value item : Json} {items : List Json} {byte : UInt8}
  {bytes : List UInt8} {place : Place}

/-- A node that reports an error reports one that is quoted. -/
theorem reports_of_error {fields : List (Text × Json)} {error : Json}
    (failed : (Json.obj fields).field? "error" = some error) :
    ∃ place content, Reports (.obj fields) place content := by
  cases error with
  | obj inner =>
      rcases Json.silent_or_said "data" (.obj inner) with noData | ⟨data, said, full⟩
      · rcases Json.silent_or_said "message" (.obj inner) with noMessage | ⟨message, said, full⟩
        · exact ⟨_, _, .whole failed noData noMessage⟩
        · exact ⟨_, _, .message failed noData said full⟩
      · exact ⟨_, _, .data failed said full⟩
  | null | bool _ | int _ | float _ | str _ | arr _ =>
      exact ⟨_, _, .plain failed fun _ => (nomatch ·)⟩

/-! ## Bytes -/

theorem standsFor_of_byteOfItem (found : byteOfItem item = .ok byte) : StandsFor item byte := by
  cases item with
  | int value =>
      rw [byteOfItem] at found
      split at found
      · rename_i range
        rw [Bool.and_eq_true, decide_eq_true_eq, decide_eq_true_eq] at range
        rcases Int.eq_ofNat_of_zero_le range.1 with ⟨n, rfl⟩
        rcases Except.ok.inj found with rfl
        have stands : StandsFor (.int (UInt8.ofNat n).toNat) (.ofNat n) := .int
        rwa [Utf8.toNat_ofNat (by omega)] at stands
      · exact nomatch found
  | bool value =>
      rcases Except.ok.inj found with rfl
      cases value with
      | false => exact .no
      | true => exact .yes
  | null | float _ | str _ | arr _ | obj _ => exact nomatch found

theorem byteOfItem_eq_ok_iff : byteOfItem item = .ok byte ↔ StandsFor item byte := by
  constructor
  · exact standsFor_of_byteOfItem
  · intro stands
    cases stands with
    | int =>
        have small := byte.toNat_lt
        have range :
            (decide ((0 : Int) ≤ byte.toNat) && decide ((byte.toNat : Int) < 256)) = true := by
          rw [Bool.and_eq_true, decide_eq_true_eq, decide_eq_true_eq]
          omega
        rw [byteOfItem, if_pos range, Int.toNat_natCast, UInt8.ofNat_toNat]
    | yes => rfl
    | no => rfl

theorem bytesOfItems_eq_ok_iff :
    bytesOfItems items = .ok bytes ↔ List.Forall₂ StandsFor items bytes := by
  simp only [bytesOfItems, mapM_eq_ok_iff, byteOfItem_eq_ok_iff]

variable [Platform]

/-- Which value a well-formed response carries: what it holds is a list of bytes, the UTF-8 form of
the JSON text of the value. -/
inductive Carries (response value : Json) : Prop where
  | intro {items : List Json} {text : Text}
      (list : Holds response (.arr items))
      (bytes : List.Forall₂ StandsFor items (Utf8.encode text))
      (scalar : text.isScalar = true)
      (json : Json.read Platform.resultRoom text = .ok value)

/-! ## Texts -/

/-- Bytes are taken for the text of which they are the UTF-8 form, if there is one. -/
theorem valueOfBytes_encode {text : Text} (scalar : text.isScalar = true) :
    valueOfBytes (Utf8.encode text) =
      (Json.read Platform.resultRoom text).mapError .ofUnread := by
  rw [valueOfBytes, Utf8.decode_eq_ok_iff.mpr ⟨scalar, rfl⟩]

theorem text_or_undecodable (bytes : List UInt8) :
    (∃ text : Text, text.isScalar = true ∧ Utf8.encode text = bytes) ∨
      ∃ cause, valueOfBytes bytes = .error (.undecodable cause) := by
  rw [valueOfBytes]
  cases decoded : Utf8.decode bytes with
  | error fault => exact .inr ⟨_, rfl⟩
  | ok text => exact .inl ⟨text, Utf8.decode_eq_ok_iff.mp decoded⟩

theorem valueOfBytes_eq_ok_iff :
    valueOfBytes bytes = .ok value ↔
      ∃ text, text.isScalar = true ∧ Utf8.encode text = bytes ∧
        Json.read Platform.resultRoom text = .ok value := by
  constructor
  · intro found
    rcases text_or_undecodable bytes with ⟨text, scalar, rfl⟩ | ⟨cause, refused⟩
    · rw [valueOfBytes_encode scalar, mapError_eq_ok_iff] at found
      exact ⟨text, scalar, rfl, found⟩
    · exact nomatch refused.symm.trans found
  · rintro ⟨text, scalar, rfl, found⟩
    rw [valueOfBytes_encode scalar, mapError_eq_ok_iff]
    exact found

/-- No JSON text comes of zero bytes, not even of none. -/
theorem valueOfBytes_zeros (count : Nat) :
    ∃ cause, valueOfBytes (List.replicate (min count 1) 0) = .error (.undecodable cause) := by
  cases count with
  | zero => exact ⟨_, rfl⟩
  | succ count =>
      rw [Nat.min_eq_right (Nat.le_add_left 1 count)]
      exact ⟨_, rfl⟩

/-- No JSON text comes of a number of bytes. -/
theorem undecodable_of_zeroBytes {count : Int} (found : zeroBytes count = .ok bytes) :
    ∃ cause, valueOfBytes bytes = .error (.undecodable cause) := by
  simp only [zeroBytes] at found
  repeat' split at found
  all_goals
    simp only [reduceCtorEq, Except.ok.injEq] at found
  rcases found with rfl
  exact valueOfBytes_zeros count.toNat

/-- The keys of an object stand for no byte, and if there are none, no JSON text comes of them. -/
theorem undecodable_of_keys {fields : List (Text × Json)}
    (found : bytesOfItems (fields.map fun (key, _) => .str key) = .ok bytes) :
    ∃ cause, valueOfBytes bytes = .error (.undecodable cause) := by
  rw [bytesOfItems_eq_ok_iff] at found
  cases fields with
  | nil =>
      rcases List.forall₂_nil_left_iff.mp found with rfl
      exact valueOfBytes_zeros 0
  | cons field fields =>
      rcases found with _ | ⟨first, -⟩
      exact nomatch first

/-- Only of a list of bytes comes a JSON text. -/
theorem list_or_undecodable (found : bytesOfResult content = .ok bytes) :
    (∃ items, content = .arr items ∧ List.Forall₂ StandsFor items bytes) ∨
      ∃ cause, valueOfBytes bytes = .error (.undecodable cause) := by
  cases content with
  | arr items =>
      rw [bytesOfResult, mapError_eq_ok_iff, bytesOfItems_eq_ok_iff] at found
      exact .inl ⟨items, rfl, found⟩
  | null | float _ | str _ => exact nomatch found
  | bool _ | int _ => exact .inr (undecodable_of_zeroBytes found)
  | obj fields =>
      rw [bytesOfResult, mapError_eq_ok_iff] at found
      exact .inr (undecodable_of_keys found)

/-! ## Responses -/

/-- A response is judged by what it holds. -/
theorem Holds.valueOfResponse_eq (holds : Holds response content) :
    valueOfResponse response =
      match bytesOfResult content with
      | .error fault => .error fault
      | .ok bytes => valueOfBytes bytes := by
  rcases holds with @⟨fields, inner, _, accepted, result, succeeded, found⟩
  have void := Json.isVoid_fieldOrNull.mpr succeeded
  have inside : (Json.obj fields).fieldOrNull "result" = .obj inner :=
    (Json.fieldOrNull_eq_iff (by simp)).mpr result
  have there : (Json.obj inner).fieldOrNull "result" = content := by
    rw [Json.fieldOrNull, found]
    rfl
  cases bytes : bytesOfResult content <;>
    simp only [valueOfResponse, accepted, inside, valueOfResult, void, there, bytes, Bool.not_true,
      Bool.false_eq_true, if_false]

/-- A response that reports an error has the fault that it is, if it can be put into words. -/
theorem Reports.valueOfResponse_eq (reports : Reports response place content) :
    ∃ fault : ResponseFault, fault.isBeyond = false ∧
      valueOfResponse response = .error ((place.unshown? content).elim fault .unworded) := by
  cases reports with
  | @data fields inner _ failed said full =>
      rcases Json.fieldOrNull_of_said said full with ⟨found, filled⟩
      refine ⟨.node content.shown, rfl, ?_⟩
      simp only [valueOfResponse, failed, nodeDetail, filled, found, Bool.not_false, if_true,
        detailText]
      cases Place.detail.unshown? content <;> rfl
  | @message fields inner _ failed noData said full =>
      have void := Json.isVoid_fieldOrNull.mpr noData
      rcases Json.fieldOrNull_of_said said full with ⟨found, filled⟩
      refine ⟨.node content.shown, rfl, ?_⟩
      simp only [valueOfResponse, failed, nodeDetail, void, filled, found, Bool.not_false,
        Bool.not_true, Bool.false_eq_true, if_true, if_false, detailText]
      cases Place.detail.unshown? content <;> rfl
  | @whole fields inner failed noData noMessage =>
      have void := Json.isVoid_fieldOrNull.mpr noData
      have void' := Json.isVoid_fieldOrNull.mpr noMessage
      refine ⟨.node (Json.obj inner).toText, rfl, ?_⟩
      simp only [valueOfResponse, failed, nodeDetail, void, void', Bool.not_true,
        Bool.false_eq_true, if_false, errorText, Place.unshown?]
      cases Place.nodeError.unworded? (.obj inner) <;> rfl
  | plain failed flat =>
      refine ⟨.node content.shown, rfl, ?_⟩
      have quoted : nodeDetail content = detailText content := by
        cases content with
        | obj inner => exact absurd rfl (flat inner)
        | null | bool _ | int _ | float _ | str _ | arr _ => rfl
      simp only [valueOfResponse, failed, quoted, detailText]
      cases Place.detail.unshown? content <;> rfl
  | @contract fields inner _ accepted result said full =>
      have inside : (Json.obj fields).fieldOrNull "result" = .obj inner :=
        (Json.fieldOrNull_eq_iff (by simp)).mpr result
      rcases Json.fieldOrNull_of_said said full with ⟨found, filled⟩
      refine ⟨.contract content.shown, rfl, ?_⟩
      simp only [valueOfResponse, accepted, inside, valueOfResult, filled, found, Bool.not_false,
        if_true, detailText]
      cases Place.detail.unshown? content <;> rfl

/-- A response holds something, reports an error, or lacks a part. -/
theorem response_cases (response : Json) :
    (∃ content, Holds response content) ∨ (∃ place content, Reports response place content) ∨
      ∃ fault : ResponseFault, fault.isBeyond = false ∧
        valueOfResponse response = .error fault := by
  cases response with
  | obj fields =>
      cases accepted : (Json.obj fields).field? "error" with
      | some error => exact .inr (.inl (reports_of_error accepted))
      | none =>
          cases result : (Json.obj fields).fieldOrNull "result" with
          | obj inner =>
              have there := (Json.fieldOrNull_eq_iff (by simp)).mp result
              rcases Json.silent_or_said "error" (.obj inner) with silent | ⟨error, said, full⟩
              · cases found : (Json.obj inner).field? "result" with
                | some content => exact .inl ⟨content, .intro accepted there silent found⟩
                | none =>
                    refine .inr (.inr ⟨.missingBytes, rfl, ?_⟩)
                    have void := Json.isVoid_fieldOrNull.mpr silent
                    simp only [valueOfResponse, accepted, result, valueOfResult, void]
                    simp [Json.fieldOrNull, found, bytesOfResult]
              · exact .inr (.inl ⟨_, _, .contract accepted there said full⟩)
          | null | bool _ | int _ | float _ | str _ | arr _ =>
              refine .inr (.inr ⟨.missingResult, rfl, ?_⟩)
              simp only [valueOfResponse, accepted, result]
  | null | bool _ | int _ | float _ | str _ | arr _ => exact .inr (.inr ⟨_, rfl, rfl⟩)

/-- A response is accepted just if it is well-formed, with the value that it carries. -/
theorem valueOfResponse_eq_ok_iff :
    valueOfResponse response = .ok value ↔ Carries response value := by
  constructor
  · intro accepted
    rcases response_cases response with
      ⟨content, holds⟩ | ⟨place, content, reports⟩ | ⟨fault, -, refused⟩
    · rw [holds.valueOfResponse_eq] at accepted
      split at accepted
      · exact nomatch accepted
      · rename_i bytes found
        rcases list_or_undecodable found with ⟨items, rfl, stand⟩ | ⟨cause, refused⟩
        · rcases valueOfBytes_eq_ok_iff.mp accepted with ⟨text, scalar, rfl, json⟩
          exact .intro holds stand scalar json
        · exact nomatch refused.symm.trans accepted
    · rcases reports.valueOfResponse_eq with ⟨fault, -, refused⟩
      exact nomatch refused.symm.trans accepted
    · exact nomatch refused.symm.trans accepted
  · rintro ⟨list, bytes, scalar, json⟩
    have found := bytesOfItems_eq_ok_iff.mpr bytes
    have decoded := valueOfBytes_eq_ok_iff.mpr ⟨_, scalar, rfl, json⟩
    rw [list.valueOfResponse_eq]
    simp only [bytesOfResult, mapError_eq_ok_iff.mpr found, decoded]

/-- Whatever is queried, a response is accepted just if it is well-formed, and then with the value
that it carries. In particular it is refused unless it holds a list. -/
theorem response_accepted_iff (query : Query) (response : Json) :
    (∀ value, (valueOfResponse response).mapError (failureOfResponse query) = .ok value ↔
      Carries response value) ∧
    ((∃ items, Holds response (.arr items)) ∨
      ∃ failure, (valueOfResponse response).mapError (failureOfResponse query) =
        .error failure) := by
  have accepted (value : Json) :
      (valueOfResponse response).mapError (failureOfResponse query) = .ok value ↔
        Carries response value :=
    mapError_eq_ok_iff.trans valueOfResponse_eq_ok_iff
  refine ⟨accepted, ?_⟩
  cases outcome : (valueOfResponse response).mapError (failureOfResponse query) with
  | error failure => exact .inr ⟨failure, rfl⟩
  | ok value =>
      rcases (accepted value).mp outcome with ⟨list, -⟩
      exact .inl ⟨_, list⟩

end Rpc

end SocialMigration
