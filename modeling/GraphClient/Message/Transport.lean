import GraphClient.Error

/-!
# Messages

Whole messages as a channel carries them.
-/

namespace GraphClient

/-- Why a peer closes a channel. -/
structure CloseFrame where
  code : Nat
  reason : String
  deriving DecidableEq, Repr, Inhabited

inductive Message where
  | text (payload : String)
  | binary (payload : ByteArray)
  | ping (payload : ByteArray)
  | pong (payload : ByteArray)
  | close (frame : Option CloseFrame)
  deriving Inhabited

namespace Message

/-- The name of a message's kind. -/
def name : Message → String
  | text _ => "TEXT"
  | binary _ => "BINARY"
  | ping _ => "PING"
  | pong _ => "PONG"
  | close _ => "CLOSE"

end Message

/-- The type of the JSON payloads. -/
def mimeType : String := "application/vnd.gremlin-v3.0+json"

/-- What stands before the payload of a binary message: the length of the type's name and the
name. -/
def mimeHeader : ByteArray := ⟨#[33]⟩ ++ mimeType.toUTF8

/-- How requests are put into messages. -/
inductive MessageFormat where
  | text
  | binary
  deriving DecidableEq, Repr, Inhabited

namespace MessageFormat

def name : MessageFormat → String
  | text => "Text"
  | binary => "Binary"

end MessageFormat

end GraphClient
