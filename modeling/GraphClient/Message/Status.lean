import GraphClient.Error

/-!
# Response status

The status codes that a response can have, and the errors that they stand for.
-/

namespace GraphClient

/-- What a known status code says. -/
inductive ResponseCode where
  | success
  | noContent
  | partialContent
  | unauthorized
  | authenticate
  | malformedRequest
  | invalidRequestArguments
  | serverError
  | scriptEvaluationError
  | serverTimeout
  | serverSerializationError
  deriving DecidableEq, Repr, Inhabited

namespace ResponseCode

/-- The meaning of a status code, if it is known. -/
def ofCode? (code : Nat) : Option ResponseCode :=
  match code with
  | 200 => some success
  | 204 => some noContent
  | 206 => some partialContent
  | 401 => some unauthorized
  | 407 => some authenticate
  | 409 | 498 => some malformedRequest
  | 499 => some invalidRequestArguments
  | 500 => some serverError
  | 597 => some scriptEvaluationError
  | 598 => some serverTimeout
  | 599 => some serverSerializationError
  | _ => none

/-- The name of a code. -/
def name : ResponseCode → String
  | success => "Success"
  | noContent => "NoContent"
  | partialContent => "PartialContent"
  | unauthorized => "Unauthorized"
  | authenticate => "Authenticate"
  | malformedRequest => "MalformedRequest"
  | invalidRequestArguments => "InvalidRequestArguments"
  | serverError => "ServerError"
  | scriptEvaluationError => "ScriptEvaluationError"
  | serverTimeout => "ServerTimeout"
  | serverSerializationError => "ServerSerializationError"

/-- The response ends with success. -/
def isTerminalSuccess : ResponseCode → Bool
  | success | noContent => true
  | _ => false

/-- The server asks for credentials. -/
def isChallenge : ResponseCode → Bool
  | unauthorized | authenticate => true
  | _ => false

/-- The kind of error that a code reports. -/
def errorKind? : ResponseCode → Option ErrorKind
  | malformedRequest => some .malformedRequest
  | invalidRequestArguments => some .invalidRequestArguments
  | serverError => some .serverError
  | scriptEvaluationError => some .scriptEvaluation
  | serverTimeout => some .serverTimeout
  | serverSerializationError => some .serverSerialization
  | _ => none

end ResponseCode

namespace ClientError

def unexpectedStatus (code : Nat) (message : String) : ClientError :=
  .protocol ("unexpected status code " ++ toString code ++ ": " ++ message)

/-- The error that a status reports; successes and challenges report none. -/
def ofStatus? (code : Nat) (message : String) : Option ClientError :=
  match ResponseCode.ofCode? code with
  | none => some (unexpectedStatus code message)
  | some known => known.errorKind?.map fun kind => ⟨kind, message⟩

end ClientError

end GraphClient
