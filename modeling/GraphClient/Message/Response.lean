import GraphClient.GraphSON.Envelope
import GraphClient.Json.Record
import GraphClient.Message.Status
import GraphClient.Message.Transport
import GraphClient.Uuid

/-!
# Responses

A response frame has a status, perhaps the identifier of its request, and perhaps data. It is read
from the text of a message, or from bytes behind the name of the type or without it.
-/

namespace GraphClient

/-- The status of a response. -/
structure ResponseStatus where
  code : Nat
  message : Option String
  attributes : Option Json

/-- What a response brings. -/
structure ResponseResult where
  data : Option Json
  info : Option Json

/-- A response frame. -/
structure Response where
  requestId : Option Json
  status : ResponseStatus
  result : ResponseResult

namespace Json

/-- A number of 16 bits. -/
def asCode? : Json → Option Nat
  | .number (.int n) => if 0 ≤ n ∧ n.toNat < Nat.pow 2 16 then some n.toNat else none
  | _ => none

end Json

namespace ResponseStatus

def shape : Json.Shape := .record [("code", .any), ("message", .any), ("attributes", .any)]

def ofJson? (json : Json) : Option ResponseStatus :=
  match json.record? ["code", "message", "attributes"] with
  | some ⟨_, [some code, message, attributes]⟩ => do
    let code ← code.asCode?
    let message ← match Json.optional message with
      | none => some none
      | some (.string text) => some (some text)
      | some _ => none
    some ⟨code, message, Json.optional attributes⟩
  | _ => none

/-- The message, or the empty text. -/
def text (s : ResponseStatus) : String := s.message.getD ""

end ResponseStatus

namespace ResponseResult

def shape : Json.Shape := .record [("data", .any), ("meta", .any)]

def ofJson? (json : Json) : Option ResponseResult :=
  match json.record? ["data", "meta"] with
  | some ⟨_, [data, info]⟩ => some ⟨Json.optional data, Json.optional info⟩
  | _ => none

end ResponseResult

namespace Response

def shape : Json.Shape :=
  .record [("requestId", .any), ("status", ResponseStatus.shape),
    ("result", ResponseResult.shape)]

def ofJson? (json : Json) : Option Response :=
  match json.record? ["requestId", "status", "result"] with
  | some ⟨_, [requestId, some status, result]⟩ => do
    let status ← ResponseStatus.ofJson? status
    let result ← match result with
      | none => some ⟨none, none⟩
      | some result => ResponseResult.ofJson? result
    some ⟨Json.optional requestId, status, result⟩
  | _ => none

/-- The error for a frame without content. -/
def emptyFrame : TransportError := .serialization "Empty response frame"

/-- The error for a frame that is no response. -/
def malformedFrame : TransportError := .serialization "Malformed response frame"

/-- The response that a sequence of symbols holds. -/
def ofSymbols (input : List Symbol) : Except TransportError Response :=
  match (Json.ofSymbols? shape input).bind ofJson? with
  | some response => .ok response
  | none => .error malformedFrame

def ofText (text : String) : Except TransportError Response := ofSymbols (Symbol.ofString text)

/-- Bytes without the name of the type before them. -/
def stripHeader (bytes : ByteArray) : ByteArray :=
  if mimeHeader.data.toList <+: bytes.data.toList then
    bytes.extract mimeHeader.size bytes.size
  else bytes

def ofBytes (bytes : ByteArray) : Except TransportError Response :=
  let payload := stripHeader bytes
  if payload.isEmpty then .error emptyFrame else ofSymbols (Utf8.symbols payload)

/-- The meaning of the status code, if it is known. -/
def code? (r : Response) : Option ResponseCode := ResponseCode.ofCode? r.status.code

/-- The identifier of the request, if it is there and well formed. -/
def requestUuid? (r : Response) : Option Uuid := do
  let raw ← r.requestId
  let text ← (GraphSON.untag raw).asString?
  Uuid.parse? text

/-- The data, unless it is null. -/
def data? (r : Response) : Option Json := Json.optional r.result.data

def text (r : Response) : String :=
  "RESPONSE " ++ toString r.status.code ++ " " ++ r.status.text

end Response

end GraphClient
