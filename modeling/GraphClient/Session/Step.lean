import GraphClient.Session.Basic

/-!
# Steps of a session

Every event that can happen to a session, one at a time: its user begins a request, ends the session
or drops a request; an operation of its channel is over; its keepalive wakes. A step is `none` where
the event cannot happen.
-/

namespace GraphClient.Session

/-- What can happen to a session. -/
inductive Event where
  /-- The channel is open, or cannot be opened. -/
  | opened (success : Bool)
  /-- The channel did not open in time. -/
  | openExpired
  /-- The user sends a script as a request with this identifier. -/
  | submit (id : Uuid) (script : String)
  /-- The user ends the session. -/
  | disconnect
  /-- The user drops its request. -/
  | cancel
  /-- The user takes note of the end of its request or of the session. -/
  | collect
  /-- The user gets hold of the channel. -/
  | claim
  /-- The message is out, or an error is met. -/
  | sent (failure : Option TransportError)
  /-- A message is there, the channel has ended, or an error is met. -/
  | received (result : Except TransportError (Option Message))
  /-- The channel is closed, or closing it failed. -/
  | closed
  /-- The keepalive wakes. -/
  | tick
  /-- The ping is out, or could not be sent. -/
  | pinged
  /-- The keepalive ends. -/
  | stop

/-- The request ends with an outcome. After a fatal error the channel is closed first. -/
def conclude (s : Session) (outcome : Outcome) : Session :=
  match outcome with
  | .error e =>
    if e.isFatal then { s with hasChannel := false, activity := .closingAfter e }
    else { s with state := .idle, activity := .finished outcome }
  | .ok _ => { s with state := .idle, activity := .finished outcome }

/-- The user gets hold of the channel, or finds none. -/
def claim? (config : ClientConfig) (s : Session) : Option Session :=
  match s.activity with
  | .claimingRequest id script =>
    if s.hasChannel then
      let request := Request.eval id script config.processor config.language
      let exchange := Exchange.new id config.credentials.isSome
      some { s with state := .sending, activity := .sendingRequest ⟨request, exchange⟩ }
    else
      some { s with state := .disconnected, activity := .finished (.error s.notConnected) }
  | .claimingEnd =>
    if s.hasChannel then some { s with hasChannel := false, activity := .closing }
    else some { s with state := .disconnected, activity := .ended }
  | _ => none

/-- The session after a frame of its conversation. -/
def onFrame (config : ClientConfig) (s : Session) (c : Conversation) (frame : Response) :
    Session :=
  let (exchange, transition) := c.exchange.onFrame config.decoder frame
  let c := { c with exchange }
  match transition with
  | .proceed => { s with state := exchange.state, activity := .receiving c }
  | .complete values => { s with state := .completed }.conclude (.ok values)
  | .fail e => { s with state := .completed }.conclude (.error e)
  | .authenticate =>
    match config.credentials with
    | none => s.conclude (.error .missingCredentials)
    | some credentials =>
      let answer := Request.authentication c.request.id config.processor credentials
      { s with activity := .sendingAnswer c answer }

/-- A frame, or the error that it could not be read. -/
def onPayload (config : ClientConfig) (s : Session) (c : Conversation)
    (payload : Except TransportError Response) : Session :=
  match payload with
  | .ok frame => s.onFrame config c frame
  | .error e => s.conclude (.error (.protocol ("Invalid response frame: " ++ e.text)))

/-- Why the server closed the channel. -/
def closeReason : Option CloseFrame → String
  | some frame =>
    "Server closed connection (" ++ toString frame.code ++ ": " ++ frame.reason ++ ")"
  | none => "Server closed connection"

/-- The session after a message to its conversation. -/
def onMessage (config : ClientConfig) (s : Session) (c : Conversation) (m : Message) : Session :=
  match m with
  | .text text => s.onPayload config c (Response.ofText text)
  | .binary bytes => s.onPayload config c (Response.ofBytes bytes)
  | .ping payload => { s with activity := .sendingPong c payload }
  | .pong _ => { s with activity := .receiving c }
  | .close frame => s.conclude (.error (.disconnected (closeReason frame)))

/-- The session after what a receive gave. -/
def onReceived (config : ClientConfig) (s : Session) (c : Conversation)
    (result : Except TransportError (Option Message)) : Session :=
  match result with
  | .error e => s.conclude (.error e.toClientError)
  | .ok none => s.conclude (.error (.disconnected "Channel closed"))
  | .ok (some m) => s.onMessage config c m

/-- The session after a send. -/
def sent? (s : Session) (failure : Option TransportError) : Option Session :=
  match s.activity, failure with
  | .sendingRequest c, none =>
    some { s with state := c.exchange.state, activity := .receiving c }
  | .sendingPong c _, none => some { s with activity := .receiving c }
  | .sendingAnswer c _, none => some { s with state := .awaitingFrame, activity := .receiving c }
  | .sendingRequest _, some e | .sendingPong _ _, some e | .sendingAnswer _ _, some e =>
    some (s.conclude (.error e.toClientError))
  | _, _ => none

/-- The session after its channel is closed. -/
def closed? (s : Session) : Option Session :=
  match s.activity with
  | .closingAfter e =>
    some { s with
      state := .disconnected, stopping := true, activity := .finished (.error e) }
  | .closing => some { s with state := .disconnected, activity := .ended }
  | _ => none

/-- The keepalive wakes: it passes over a channel in use, ends without a channel, and else sends a
ping. -/
def tick? (config : ClientConfig) (now : Instant) (s : Session) : Option Session :=
  match s.keepalive with
  | .waiting next =>
    if next ≤ now then
      let following : Instant := ⟨next.nanos + config.pingInterval.nanos⟩
      if s.activity.holdsChannel then some { s with keepalive := .waiting following }
      else if s.hasChannel then some { s with keepalive := .pinging following }
      else some { s with keepalive := .off }
    else none
  | _ => none

/-- The session after an event. -/
def step? (config : ClientConfig) (now : Instant) (s : Session) (event : Event) :
    Option Session :=
  match event with
  | .opened success =>
    match s.activity with
    | .opening _ => some (s.started config now success)
    | _ => none
  | .openExpired =>
    match s.activity with
    | .opening deadline => if deadline ≤ now then some (s.started config now false) else none
    | _ => none
  | .submit id script =>
    match s.activity with
    | .resting => some { s with activity := .claimingRequest id script }
    | _ => none
  | .disconnect =>
    match s.activity with
    | .resting => some { s with stopping := true, activity := .claimingEnd }
    | _ => none
  | .cancel => if s.activity.isRequest then some { s with activity := .resting } else none
  | .collect =>
    match s.activity with
    | .finished _ | .ended => some { s with activity := .resting }
    | _ => none
  | .claim => if s.keepalive.isPinging then none else s.claim? config
  | .sent failure => s.sent? failure
  | .received result =>
    match s.activity with
    | .receiving c => some (s.onReceived config c result)
    | _ => none
  | .closed => s.closed?
  | .tick => s.tick? config now
  | .pinged =>
    match s.keepalive with
    | .pinging next => some { s with keepalive := .waiting next }
    | _ => none
  | .stop =>
    match s.keepalive with
    | .waiting _ => if s.stopping then some { s with keepalive := .off } else none
    | _ => none

/-- The session after a run of events at their instants. -/
def run? (config : ClientConfig) (s : Session) (events : List (Instant × Event)) :
    Option Session :=
  events.foldlM (fun s (now, event) => s.step? config now event) s

/-- The instants that a session waits for. -/
def deadlines (s : Session) : List Instant :=
  (match s.activity with
    | .opening deadline => [deadline]
    | _ => []) ++
  (match s.keepalive with
    | .waiting next => [next]
    | _ => [])

end GraphClient.Session
