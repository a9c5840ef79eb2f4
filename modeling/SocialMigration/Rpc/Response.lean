import SocialMigration.Json.Printer
import SocialMigration.Json.Reader
import SocialMigration.Json.Shown
import SocialMigration.Platform
import SocialMigration.Text.Utf8

/-!
# Responses to view calls

A node answers a view call with an object. An `error` in it is the node's own; otherwise its
`result` holds an `error` of the contract or, as a list of bytes, the UTF-8 JSON text of the value
that the method returned. A response is accepted only if the value can be read from it; every other
response has a fault. A response whose parts stand too deep in each other is neither: nothing is
read from it, or its fault is not put into words.
-/

namespace SocialMigration

namespace Rpc

/-- Why the bytes of a result denote no value. -/
inductive Undecodable where
  | itemOutOfRange
  | itemNotInteger (kind : Text)
  | plainText
  | negativeCount
  | notBytes (kind : Text)
  | notUtf8 (fault : Utf8.Fault)
  | notJson (error : Json.ReadError)
  deriving DecidableEq, Repr

/-- The words for why bytes denote no value. -/
def Undecodable.message : Undecodable → Text
  | itemOutOfRange => "bytes must be in range(0, 256)"
  | itemNotInteger kind => "'" ++ kind ++ "' object cannot be interpreted as an integer"
  | plainText => "string argument without an encoding"
  | negativeCount => "negative count"
  | notBytes kind => "cannot convert '" ++ kind ++ "' object to bytes"
  | notUtf8 fault => fault.message
  | notJson error => error.message

/-- Why a count of bytes is too large: it is no number of the machine, no text is as long, or there
is no room for so many. -/
inductive CountFault where
  | uncountable
  | tooLong
  | noRoom
  deriving DecidableEq, Repr

/-- What is wrong with a response. -/
inductive ResponseFault where
  | notAnObject (kind : Text)
  | node (detail : Text)
  | missingResult
  | contract (detail : Text)
  | missingBytes
  | undecodable (cause : Undecodable)
  | countTooLarge (fault : CountFault)
  | tooDeep (opened : Json.Container)
  | unworded (fault : Unworded)
  deriving DecidableEq, Repr

/-- The byte that an item of a list stands for; truth values count as one and zero. -/
def byteOfItem : Json → Except Undecodable UInt8
  | .int value =>
    if 0 ≤ value && value < 256 then .ok (.ofNat value.toNat) else .error .itemOutOfRange
  | .bool value => .ok (if value then 1 else 0)
  | item => .error (.itemNotInteger item.kindName)

/-- The bytes that a list of items stands for. -/
def bytesOfItems (items : List Json) : Except Undecodable (List UInt8) :=
  items.mapM byteOfItem

/-- The greatest number of bytes that a text may have, 2^63 - 34. -/
def lengthLimit : Int := 0x8000000000000000 - 34

variable [Platform]

/-- The bytes that a count stands for: as many zeros. No text that starts with a zero byte is JSON,
so one of them is as good as all. -/
def zeroBytes (count : Int) : Except ResponseFault (List UInt8) :=
  if count < -0x8000000000000000 || 0x8000000000000000 ≤ count then
    .error (.countTooLarge .uncountable)
  else if count < 0 then .error (.undecodable .negativeCount)
  else if lengthLimit < count then .error (.countTooLarge .tooLong)
  else if Platform.byteRoom < count then .error (.countTooLarge .noRoom)
  else .ok (List.replicate (min count.toNat 1) 0)

/-- The bytes that the result of a response stands for. -/
def bytesOfResult : Json → Except ResponseFault (List UInt8)
  | .null => .error .missingBytes
  | .bool value => zeroBytes (if value then 1 else 0)
  | .int count => zeroBytes count
  | .float value => .error (.undecodable (.notBytes (Json.float value).kindName))
  | .str _ => .error (.undecodable .plainText)
  | .arr items => (bytesOfItems items).mapError .undecodable
  | .obj fields =>
    (bytesOfItems (fields.map fun (key, _) => .str key)).mapError .undecodable

/-- What is wrong if no value is read from the text of a result. -/
def ResponseFault.ofUnread : Json.Unread → ResponseFault
  | .notJson error => undecodable (.notJson error)
  | .tooDeep opened => tooDeep opened

/-- The value whose UTF-8 JSON text some bytes are. -/
def valueOfBytes (bytes : List UInt8) : Except ResponseFault Json :=
  match Utf8.decode bytes with
  | .error fault => .error (.undecodable (.notUtf8 fault))
  | .ok text => (Json.read Platform.resultRoom text).mapError .ofUnread

/-- A detail of an error, shown on its own. -/
def detailText (detail : Json) : Except ResponseFault Text :=
  match Place.detail.unshown? detail with
  | some fault => .error (.unworded fault)
  | none => .ok detail.shown

/-- An error as a whole, on a line. -/
def errorText (error : Json) : Except ResponseFault Text :=
  match Place.nodeError.unworded? error with
  | some fault => .error (.unworded fault)
  | none => .ok error.toText

/-- What a node says about its error: the data, the message, or the whole error. -/
def nodeDetail (error : Json) : Except ResponseFault Text :=
  match error with
  | .obj _ =>
    let data := error.fieldOrNull "data"
    let message := error.fieldOrNull "message"
    if !data.isVoid then detailText data
    else if !message.isVoid then detailText message
    else errorText error
  | _ => detailText error

/-- The value in the result of a response. -/
def valueOfResult (result : Json) : Except ResponseFault Json :=
  let error := result.fieldOrNull "error"
  if !error.isVoid then do .error (.contract (← detailText error))
  else
    match bytesOfResult (result.fieldOrNull "result") with
    | .error fault => .error fault
    | .ok bytes => valueOfBytes bytes

/-- The value that a response carries. -/
def valueOfResponse (response : Json) : Except ResponseFault Json :=
  match response with
  | .obj _ =>
    match response.field? "error" with
    | some error => do .error (.node (← nodeDetail error))
    | none =>
      match response.fieldOrNull "result" with
      | .obj fields => valueOfResult (.obj fields)
      | _ => .error .missingResult
  | _ => .error (.notAnObject response.kindName)

end Rpc

end SocialMigration
