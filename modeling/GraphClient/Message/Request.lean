import GraphClient.GraphSON.Envelope
import GraphClient.GraphSON.Tag
import GraphClient.Json.Writer
import GraphClient.Message.Transport
import GraphClient.Text.Base64
import GraphClient.Uuid

/-!
# Requests

A request asks the server to evaluate a script, or answers its challenge with credentials. It goes
out as compact JSON, in a text message or in a binary one behind the name of its type.
-/

namespace GraphClient

/-- Name and password of a user. -/
structure Credentials where
  username : String
  password : String
  deriving DecidableEq, Repr, Inhabited

/-- The initial response of the PLAIN mechanism: user name and password, a NUL before each, in
Base64. -/
def Credentials.sasl (c : Credentials) : String :=
  Base64.encode ("\x00" ++ c.username ++ "\x00" ++ c.password).toUTF8

/-- What a request asks for. -/
inductive RequestBody where
  | eval (script language : String)
  | authentication (sasl : String)
  deriving DecidableEq, Repr, Inhabited

structure Request where
  id : Uuid
  processor : String
  body : RequestBody
  deriving DecidableEq, Repr, Inhabited

namespace Request

def eval (id : Uuid) (script processor language : String) : Request :=
  ⟨id, processor, .eval script language⟩

/-- The answer to the challenge of the request with this identifier. -/
def authentication (id : Uuid) (processor : String) (credentials : Credentials) : Request :=
  ⟨id, processor, .authentication credentials.sasl⟩

/-- The name of the operation. -/
def operation (r : Request) : String :=
  match r.body with
  | .eval _ _ => "eval"
  | .authentication _ => "authentication"

def script? (r : Request) : Option String :=
  match r.body with
  | .eval script _ => some script
  | .authentication _ => none

def argumentsJson (r : Request) : Json :=
  match r.body with
  | .eval script language => .object [("gremlin", .string script), ("language", .string language)]
  | .authentication sasl => .object [("sasl", .string sasl), ("saslMechanism", .string "PLAIN")]

def idJson (id : Uuid) : Json := (GraphSON.Envelope.mk GraphSON.Tag.uuid (.string id.text)).toJson

/-- The envelope of a request. -/
def toJson (r : Request) : Json :=
  .object [("args", r.argumentsJson), ("op", .string r.operation),
    ("processor", .string r.processor), ("requestId", idJson r.id)]

/-- The message that carries a request. -/
def toMessage (r : Request) (format : MessageFormat) : Message :=
  match format with
  | .text => .text r.toJson.render
  | .binary => .binary (mimeHeader ++ r.toJson.render.toUTF8)

end Request

end GraphClient
