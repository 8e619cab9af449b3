/-!
# Errors

What can go wrong on the way to a result: errors that the server reports, errors of the channel, and
errors of the client itself. A kind says what the caller may do about it, a message says why.
-/

namespace GraphClient

/-- The kinds of errors that a caller of the client can meet. -/
inductive ErrorKind where
  | unauthorized
  | malformedRequest
  | invalidRequestArguments
  | serverError
  | scriptEvaluation
  | serverTimeout
  | serverSerialization
  | disconnected
  | poolExhausted
  | timeout
  | protocol
  | configuration
  | serialization
  | typeConversion
  | internal
  deriving DecidableEq, Repr, Inhabited

namespace ErrorKind

/-- The identifier of a kind. -/
def name : ErrorKind → String
  | unauthorized => "unauthorized"
  | malformedRequest => "malformed_request"
  | invalidRequestArguments => "invalid_request_arguments"
  | serverError => "server_error"
  | scriptEvaluation => "script_evaluation_error"
  | serverTimeout => "server_timeout"
  | serverSerialization => "server_serialization_error"
  | disconnected => "disconnected"
  | poolExhausted => "pool_exhausted"
  | timeout => "timeout"
  | protocol => "protocol_error"
  | configuration => "configuration_error"
  | serialization => "serialization_error"
  | typeConversion => "type_conversion_error"
  | internal => "internal_error"

/-- The words before the message in the text of an error. -/
def title : ErrorKind → String
  | unauthorized => "Unauthorized"
  | malformedRequest => "Malformed request"
  | invalidRequestArguments => "Invalid request arguments"
  | serverError => "Server error"
  | scriptEvaluation => "Script evaluation error"
  | serverTimeout => "Server timeout"
  | serverSerialization => "Server serialization error"
  | disconnected => "Disconnected"
  | poolExhausted => "Pool exhausted"
  | timeout => "Timeout"
  | protocol => "Protocol error"
  | configuration => "Configuration error"
  | serialization => "Serialization error"
  | typeConversion => "Type conversion error"
  | internal => "Internal error"

/-- Every kind. -/
def all : List ErrorKind :=
  [unauthorized, malformedRequest, invalidRequestArguments, serverError, scriptEvaluation,
    serverTimeout, serverSerialization, disconnected, poolExhausted, timeout, protocol,
    configuration, serialization, typeConversion, internal]

/-- The kind with an identifier. -/
def ofName? (name : String) : Option ErrorKind := all.find? fun kind => kind.name = name

end ErrorKind

/-- An error of the client. -/
structure ClientError where
  kind : ErrorKind
  message : String
  deriving DecidableEq, Repr, Inhabited

namespace ClientError

def text (e : ClientError) : String := e.kind.title ++ ": " ++ e.message

/-- Trying again may help. -/
def isRetryable (e : ClientError) : Bool :=
  match e.kind with
  | .disconnected | .timeout | .serverTimeout | .poolExhausted => true
  | _ => false

/-- The server reported the error. -/
def isServerError (e : ClientError) : Bool :=
  match e.kind with
  | .malformedRequest | .invalidRequestArguments | .serverError | .scriptEvaluation
  | .serverTimeout | .serverSerialization => true
  | _ => false

/-- The session that met the error cannot be used again. -/
def isFatal (e : ClientError) : Bool :=
  match e.kind with
  | .disconnected | .protocol => true
  | _ => false

def missingCredentials : ClientError := ⟨.unauthorized, "Missing user credentials"⟩

def unauthorized (message : String) : ClientError := ⟨.unauthorized, message⟩

def disconnected (message : String) : ClientError := ⟨.disconnected, message⟩

def poolExhausted (message : String) : ClientError := ⟨.poolExhausted, message⟩

def timeout (message : String) : ClientError := ⟨.timeout, message⟩

def protocol (message : String) : ClientError := ⟨.protocol, message⟩

def configuration (message : String) : ClientError := ⟨.configuration, message⟩

def serialization (message : String) : ClientError := ⟨.serialization, message⟩

def typeConversion (message : String) : ClientError := ⟨.typeConversion, message⟩

end ClientError

/-- An error of the channel under a session. -/
inductive TransportError where
  | io (text : String)
  | connection (message : String)
  | closed
  | send (message : String)
  | serialization (message : String)
  deriving DecidableEq, Repr, Inhabited

namespace TransportError

def text : TransportError → String
  | io text => "I/O error: " ++ text
  | connection message => "Connection error: " ++ message
  | closed => "Connection closed"
  | send message => "Send failed: " ++ message
  | serialization message => "Serialization error: " ++ message

/-- The channel cannot be used again. -/
def isFatal : TransportError → Bool
  | serialization _ => false
  | _ => true

/-- The text of the error below this one. -/
def source? : TransportError → Option String
  | io text => some text
  | _ => none

/-- The error that a caller of the client sees. -/
def toClientError : TransportError → ClientError
  | serialization message => .serialization message
  | other => .disconnected other.text

theorem isFatal_toClientError (e : TransportError) : e.toClientError.isFatal = e.isFatal := by
  cases e <;> rfl

end TransportError

end GraphClient
