import GraphClient.GraphSON.Decoder
import GraphClient.Message.Response

/-!
# Exchanges

One request and the frames that answer it. Frames of other requests are passed over, partial
results add up, a challenge is answered once, and the first other frame ends the exchange.
-/

namespace GraphClient

/-- How far a session is. -/
inductive SessionState where
  | idle
  | sending
  | awaitingFrame
  | accumulating
  | completed
  | disconnected
  deriving DecidableEq, Repr, Inhabited

namespace SessionState

def name : SessionState → String
  | idle => "Idle"
  | sending => "Sending"
  | awaitingFrame => "AwaitingFrame"
  | accumulating => "Accumulating"
  | completed => "Completed"
  | disconnected => "Disconnected"

end SessionState

/-- What a frame calls for. -/
inductive Transition where
  | proceed
  | complete (values : List Value)
  | authenticate
  | fail (e : ClientError)

/-- A request that waits for its answer. -/
structure Exchange where
  requestId : Uuid
  hasCredentials : Bool
  authenticated : Bool
  results : List Value
  state : SessionState

namespace Exchange

def new (requestId : Uuid) (hasCredentials : Bool) : Exchange :=
  ⟨requestId, hasCredentials, false, [], .awaitingFrame⟩

/-- A frame that names another request. -/
def isForeign (x : Exchange) (frame : Response) : Bool :=
  match frame.requestUuid? with
  | some id => id != x.requestId
  | none => false

def failWith (x : Exchange) (e : ClientError) : Exchange × Transition :=
  ({ x with state := .completed }, .fail e)

/-- The end with more results after those there are. -/
def completeWith (x : Exchange) (values : List Value) : Exchange × Transition :=
  ({ x with results := [], state := .completed }, .complete (x.results ++ values))

/-- The answer to a challenge: once, and only with credentials. -/
def onChallenge (x : Exchange) (frame : Response) : Exchange × Transition :=
  if !x.hasCredentials then x.failWith .missingCredentials
  else if x.authenticated then x.failWith (.unauthorized frame.status.text)
  else ({ x with authenticated := true, state := .sending }, .authenticate)

/-- The exchange after a frame, and what the frame calls for. -/
def onFrame (x : Exchange) (decoder : GraphSON.Decoder) (frame : Response) :
    Exchange × Transition :=
  if x.isForeign frame then (x, .proceed)
  else
    match frame.code? with
    | none => x.failWith (.unexpectedStatus frame.status.code frame.status.text)
    | some known =>
      match known with
      | .unauthorized | .authenticate => x.onChallenge frame
      | .success => x.completeWith (decoder.results frame.data?)
      | .noContent => x.completeWith []
      | .partialContent =>
        ({ x with
            results := x.results ++ decoder.results frame.data?
            state := .accumulating }, .proceed)
      | _ =>
        match ClientError.ofStatus? frame.status.code frame.status.text with
        | some e => x.failWith e
        | none => x.failWith (.unexpectedStatus frame.status.code frame.status.text)

end Exchange

end GraphClient
