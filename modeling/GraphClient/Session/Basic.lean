import GraphClient.Config
import GraphClient.Session.Exchange

/-!
# Sessions

A session owns one channel and serves one request after another. What its user waits for is its
activity: an operation of the channel, or the channel itself while a keepalive ping holds it. The
keepalive wakes at regular times and sends a ping if nobody holds the channel.
-/

namespace GraphClient

/-- The result of a request. -/
abbrev Outcome := Except ClientError (List Value)

/-- A request that was sent and its exchange. -/
structure Conversation where
  request : Request
  exchange : Exchange

/-- What the user of a session waits for. -/
inductive Activity where
  /-- The channel is being opened; it has to be there before the deadline. -/
  | opening (deadline : Instant)
  | resting
  /-- A request waits for the channel. -/
  | claimingRequest (id : Uuid) (script : String)
  /-- The end of the session waits for the channel. -/
  | claimingEnd
  | sendingRequest (c : Conversation)
  | receiving (c : Conversation)
  | sendingPong (c : Conversation) (payload : ByteArray)
  | sendingAnswer (c : Conversation) (answer : Request)
  /-- The channel is being closed because of an error. -/
  | closingAfter (e : ClientError)
  | closing
  | finished (outcome : Outcome)
  | ended

namespace Activity

/-- The user holds the channel or is the next to hold it. -/
def holdsChannel : Activity → Bool
  | opening _ | resting | finished _ | ended => false
  | _ => true

/-- The message that is being sent, and the request in it. -/
def outgoing? (format : MessageFormat) : Activity → Option (Message × Option Request)
  | sendingRequest c => some (c.request.toMessage format, some c.request)
  | sendingPong _ payload => some (.pong payload, none)
  | sendingAnswer _ answer => some (answer.toMessage format, some answer)
  | _ => none

/-- The outcome of a request that is over. -/
def outcome? : Activity → Option Outcome
  | finished outcome => some outcome
  | _ => none

/-- The channel is still being opened. -/
def isOpening : Activity → Bool
  | opening _ => true
  | _ => false

/-- The session has been disconnected. -/
def hasEnded : Activity → Bool
  | ended => true
  | _ => false

/-- A request is on its way. -/
def isRequest : Activity → Bool
  | claimingRequest _ _ | sendingRequest _ | receiving _ | sendingPong _ _ | sendingAnswer _ _
  | closingAfter _ => true
  | _ => false

end Activity

/-- The keepalive of a session: at rest until an instant, or sending a ping. -/
inductive Keepalive where
  | off
  | waiting (next : Instant)
  | pinging (next : Instant)
  deriving DecidableEq, Repr

namespace Keepalive

def isPinging : Keepalive → Bool
  | pinging _ => true
  | _ => false

end Keepalive

/-- A session. -/
structure Session where
  id : Nat
  state : SessionState
  hasChannel : Bool
  activity : Activity
  keepalive : Keepalive
  /-- The keepalive has been told to end. -/
  stopping : Bool

namespace Session

/-- A session whose channel is being opened from an instant on. -/
def opening (config : ClientConfig) (id : Nat) (now : Instant) : Session :=
  { id
    state := .disconnected
    hasChannel := false
    activity := .opening (now.deadlineAfter config.connectionTimeout)
    keepalive := .off
    stopping := false }

/-- The keepalive of a session that starts with a channel. An interval of zero means none, and one
that the clock cannot show never ends. -/
def firstKeepalive (config : ClientConfig) (now : Instant) : Keepalive :=
  if config.pingInterval.isZero then .off
  else
    match now.add? config.pingInterval with
    | some next => .waiting next
    | none => .off

/-- The session after the attempt to open its channel. -/
def started (config : ClientConfig) (now : Instant) (s : Session) (success : Bool) : Session :=
  { s with
    state := if success then .idle else .disconnected
    hasChannel := success
    activity := .resting
    keepalive := if success then firstKeepalive config now else .off }

def isConnected (s : Session) : Bool := s.state != .disconnected

/-- The error of a request without a channel. -/
def notConnected (s : Session) : ClientError :=
  .disconnected ("Session " ++ toString s.id ++ " is not connected")

/-- The session and what it is doing, for diagnostics. -/
def debugText (config : ClientConfig) (s : Session) : String :=
  "Session \x7b id: " ++ toString s.id ++ ", address: " ++ config.address.debugText ++
    ", state: " ++ s.state.name ++ " \x7d"

end Session

end GraphClient
