import GraphClient.Session.Step

/-!
# Scripted servers

A server that follows a script: how each channel opens, and which frames answer which request. Each
channel keeps a log of what went over it.
-/

namespace GraphClient.Rehearsal

/-- What a scripted frame brings. A text may hold a mark for the identifier of the request. -/
inductive FrameContent where
  | text (text : String)
  | binary (text : String)
  | message (m : Message)
  | failure (e : TransportError)

/-- A scripted frame: never there, or there some time after one begins to wait for it. -/
structure ScriptedFrame where
  never : Bool
  delay : Nat
  content : FrameContent

/-- How a channel opens, and which of its sends fail. -/
structure ChannelPlan where
  never : Bool
  delay : Nat
  failure : Option TransportError
  failedSends : List Nat

/-- A channel that opens at once and never fails. -/
def ChannelPlan.smooth : ChannelPlan := ⟨false, 0, none, []⟩

/-- The script of a server. -/
structure ServerScript where
  plans : List ChannelPlan
  replies : List (String × List ScriptedFrame)
  otherwise : List ScriptedFrame
  answers : List ScriptedFrame

/-- The frames that answer a request. -/
def ServerScript.framesFor (script : ServerScript) (r : Request) : List ScriptedFrame :=
  match r.script? with
  | some text => (List.lookup text script.replies).getD script.otherwise
  | none => script.answers

/-- What a log tells. -/
inductive LogKind where
  | opened (url : String)
  | sent (name payload : String)
  | sendFailed (name payload : String)
  | received (name : String)
  | closed

/-- A line of a log. -/
structure LogEntry where
  time : Nat
  kind : LogKind

/-- A channel that follows a script. -/
structure ScriptedChannel where
  plan : ChannelPlan
  openedAt : Nat
  /-- The frames to come. -/
  queue : List ScriptedFrame
  /-- When the wait for the next frame began. -/
  waitingSince : Nat
  sends : Nat
  /-- The requests in the order of their first messages. -/
  requests : List Uuid
  /-- The log, the last line first. -/
  log : List LogEntry

namespace ScriptedChannel

def write (ch : ScriptedChannel) (time : Nat) (kind : LogKind) : ScriptedChannel :=
  { ch with log := ⟨time, kind⟩ :: ch.log }

/-- The channel that the server opens in a place. -/
def opening (script : ServerScript) (place time : Nat) (url : String) : ScriptedChannel :=
  let plan := script.plans[place]?.getD .smooth
  let ch : ScriptedChannel := ⟨plan, time, [], time, 0, [], []⟩
  ch.write time (.opened url)

/-- Two digits for each byte. -/
def hexText (bytes : ByteArray) : String :=
  String.ofList (bytes.data.toList.flatMap fun b =>
    [Nat.digitChar (b.toNat / 16), Nat.digitChar (b.toNat % 16)])

/-- The payload as the log shows it: requests as text, other payloads in hexadecimal. -/
def payloadText : Message → String
  | .text text => text
  | .binary bytes => String.ofList ((Utf8.symbols bytes).map fun s => s.getD '?')
  | .ping bytes | .pong bytes => hexText bytes
  | .close _ => ""

/-- The number of a request among those of its channel, counted from one. -/
def requestNumber (ch : ScriptedChannel) (id : Uuid) : Nat := ch.requests.idxOf id + 1

/-- The payload of a message with the number of the request in place of its identifier. -/
def shown (ch : ScriptedChannel) (m : Message) (request : Option Request) : String :=
  match request with
  | none => payloadText m
  | some r => (payloadText m).replace r.id.text ("<id" ++ toString (ch.requestNumber r.id) ++ ">")

/-- The frame with the identifier of its request in place of the mark. -/
def fill (id : Uuid) (frame : ScriptedFrame) : ScriptedFrame :=
  let put (text : String) := text.replace "$ID" id.text
  { frame with
    content := match frame.content with
      | .text text => .text (put text)
      | .binary text => .binary (put text)
      | other => other }

def noteRequest (ch : ScriptedChannel) (id : Uuid) : ScriptedChannel :=
  if id ∈ ch.requests then ch else { ch with requests := ch.requests ++ [id] }

/-- A message is sent. A request brings its answering frames. -/
def send (script : ServerScript) (time : Nat) (ch : ScriptedChannel) (m : Message)
    (request : Option Request) : Option TransportError × ScriptedChannel :=
  let ch := match request with
    | some r => ch.noteRequest r.id
    | none => ch
  let payload := ch.shown m request
  let number := ch.sends
  let ch := { ch with sends := number + 1, waitingSince := time }
  if number ∈ ch.plan.failedSends then
    (some (.send "broken pipe"), ch.write time (.sendFailed m.name payload))
  else
    let frames := match request with
      | some r => (script.framesFor r).map (fill r.id)
      | none => []
    (none, { ch with queue := ch.queue ++ frames }.write time (.sent m.name payload))

def deliver : FrameContent → Except TransportError (Option Message)
  | .text text => .ok (some (.text text))
  | .binary text => .ok (some (.binary text.toUTF8))
  | .message m => .ok (some m)
  | .failure e => .error e

def deliveredName : Except TransportError (Option Message) → String
  | .ok (some m) => m.name
  | .ok none => "END"
  | .error _ => "ERROR"

/-- When the next frame is there. Without one the end of the channel is. -/
def frameTime? (ch : ScriptedChannel) : Option Nat :=
  match ch.queue with
  | [] => some ch.waitingSince
  | frame :: _ => if frame.never then none else some (ch.waitingSince + frame.delay)

/-- What a wait gives, if it is over. -/
def receive? (time : Nat) (ch : ScriptedChannel) :
    Option (Except TransportError (Option Message) × ScriptedChannel) :=
  if ch.frameTime?.any (· ≤ time) then
    let (result, rest) := match ch.queue with
      | [] => (.ok none, [])
      | frame :: rest => (deliver frame.content, rest)
    let ch := { ch with queue := rest, waitingSince := time }
    some (result, ch.write time (.received (deliveredName result)))
  else none

/-- When the attempt to open the channel is over. -/
def openTime? (ch : ScriptedChannel) : Option Nat :=
  if ch.plan.never then none else some (ch.openedAt + ch.plan.delay)

/-- What the channel does for a session at this time. -/
def serve? (script : ServerScript) (config : ClientConfig) (time : Nat) (s : Session)
    (ch : ScriptedChannel) : Option (Session.Event × ScriptedChannel) :=
  if s.keepalive.isPinging then
    some (.pinged, (ch.send script time (.ping .empty) none).2)
  else
    match s.activity.outgoing? config.messageFormat with
    | some (m, request) =>
      let (failure, ch) := ch.send script time m request
      some (.sent failure, ch)
    | none =>
      match s.activity with
      | .opening _ =>
        if ch.openTime?.any (· ≤ time) then some (.opened ch.plan.failure.isNone, ch) else none
      | .receiving _ =>
        (ch.receive? time).map fun (result, ch) => (.received result, ch)
      | .closingAfter _ | .closing => some (.closed, ch.write time .closed)
      | _ => none

/-- When the channel does something for a session. -/
def due? (s : Session) (ch : ScriptedChannel) : Option Nat :=
  match s.activity with
  | .opening _ => ch.openTime?
  | .receiving _ => ch.frameTime?
  | _ => none

end ScriptedChannel

/-- Identifiers for requests, each different from the others. -/
def freshId (n : Nat) : Uuid := ⟨BitVec.ofNat 128 (0x6b5f0c1e2d3a4948857c90a1b2c3d4e5 + n)⟩

/-- The earliest of the times after a time. -/
def earliestAfter (time : Nat) (times : List Nat) : Option Nat :=
  (times.filter (time < ·)).min?

end GraphClient.Rehearsal
