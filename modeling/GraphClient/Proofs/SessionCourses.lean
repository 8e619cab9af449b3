import GraphClient.Proofs.Channels
import GraphClient.Proofs.Transcripts

/-!
# Courses of a session

Every event of a session from one moment to another, with the session before it and after it. What
its user, its channel and its keepalive do is interleaved in any way. However often the user drops a
request, the channel is closed once at most, and it is never opened again.
-/

namespace GraphClient.Session

/-- An event, with the session before it and after it. -/
structure Change where
  before : Session
  event : Event
  after : Session

namespace Change

def opensChannel (c : Change) : Bool := c.event.opensChannel

def closesChannel (c : Change) : Bool := c.before.closesChannel c.after

end Change

/-- Everything that happens to a session up to a later moment, in order. -/
inductive Course (config : ClientConfig) (x : Session) : List Change → Session → Prop
  | start : Course config x [] x
  | step {path : List Change} {y z : Session} {now : Instant} {e : Event}
      (h : Course config x path y) (hs : y.step? config now e = some z) :
      Course config x (path ++ [⟨y, e, z⟩]) z

/-- The events of a run, each with its sessions. -/
def changes (config : ClientConfig) (x : Session) : List (Instant × Event) → List Change
  | [] => []
  | (now, e) :: events =>
    match x.step? config now e with
    | some y => ⟨x, e, y⟩ :: y.changes config events
    | none => []

variable {config : ClientConfig} {start now : Instant} {id : Nat} {x y z : Session} {e : Event}
variable {path after : List Change} {events : List (Instant × Event)}

lemma Course.trans (h : Course config x path y) (h' : Course config y after z) :
    Course config x (path ++ after) z := by
  induction h' with
  | start => rwa [List.append_nil]
  | step _ hs ih =>
    rw [← List.append_assoc]
    exact .step ih hs

lemma course_of_run (h : x.run? config events = some y) :
    Course config x (x.changes config events) y := by
  induction events generalizing x with
  | nil =>
    cases h
    exact .start
  | cons event events ih =>
    obtain ⟨now, e⟩ := event
    obtain ⟨z, hz, h⟩ := run_cons.1 h
    rw [changes, hz]
    exact (Course.step .start hz).trans (ih h)

lemma proceeds_or_directed (h : x.step? config now e = some y) :
    x.Proceeds config now e y ∨ x.Directed e y := by
  cases he : Pool.isOwnEvent e with
  | true => exact .inl (proceeds_of_step he h)
  | false => exact .inr (directed_of_step he h)

/-- What a conversation comes to when a message is out or in: it goes on, it breaks off for good, or
its request is over and the session can serve the next. -/
inductive Talks (x : Session) : Session → Prop
  | goesOn {c : Conversation} (state : SessionState) (a : Activity)
      (ha : a.conversation? = some c) : Talks x { x with state := state, activity := a }
  | breaks (state : SessionState) (e : ClientError) (he : e.isFatal = true) :
      Talks x { x with state := state, hasChannel := false, activity := .closingAfter e }
  | finishes (outcome : Outcome) (ho : ∀ e, outcome = .error e → e.isFatal = false) :
      Talks x { x with state := .idle, activity := .finished outcome }

lemma talks_of_conclude (state : SessionState) (outcome : Outcome) :
    x.Talks ({ x with state }.conclude outcome) := by
  unfold conclude
  split
  · rename_i e
    split <;> rename_i he
    · exact .breaks state e he
    · exact .finishes (.error e) fun e' h => by
        cases h
        simpa using he
  · exact .finishes (.ok _) nofun

lemma talks_of_frame {c : Conversation} (frame : Response) :
    x.Talks (x.onFrame config c frame) := by
  unfold onFrame
  dsimp only
  split
  · exact .goesOn _ (.receiving _) rfl
  · exact talks_of_conclude _ _
  · exact talks_of_conclude _ _
  · split
    · exact talks_of_conclude x.state _
    · exact .goesOn x.state (.sendingAnswer _ _) rfl

lemma talks_of_received {c : Conversation} (result : Except TransportError (Option Message)) :
    x.Talks (x.onReceived config c result) := by
  have hpayload (payload) : x.Talks (x.onPayload config c payload) := by
    unfold onPayload
    split
    · exact talks_of_frame _
    · exact talks_of_conclude x.state _
  unfold onReceived
  split
  · exact talks_of_conclude x.state _
  · exact talks_of_conclude x.state _
  · unfold onMessage
    split
    · exact hpayload _
    · exact hpayload _
    · exact .goesOn x.state (.sendingPong _ _) rfl
    · exact .goesOn x.state (.receiving _) rfl
    · exact talks_of_conclude x.state _

lemma Talks.keepalive (h : x.Talks y) : y.keepalive = x.keepalive := by
  cases h <;> rfl

section Channel

lemma Directed.channelled {opened closed : Nat} (h : x.Directed e y)
    (hx : x.Channelled opened closed) :
    y.Channelled (opened + e.opensChannel.toNat) (closed + (x.closesChannel y).toNat) := by
  cases h <;> exact hx.same rfl nofun nofun nofun

/-- The channel is opened and closed as often as the course shows. -/
lemma channelled_of_course (h : Course config (opening config id start) path y) :
    y.Channelled (path.countP Change.opensChannel) (path.countP Change.closesChannel) := by
  induction h with
  | start => exact ⟨rfl, Nat.zero_le 1, fun _ => rfl, nofun⟩
  | step _ hs ih =>
    rw [countP_concat, countP_concat]
    rcases proceeds_or_directed hs with hp | hd
    · exact ih.proceeds hp
    · exact hd.channelled ih

/-- The channel is closed once at most, and only after it was there. -/
lemma Channelled.closed_le {opened closed : Nat} (h : x.Channelled opened closed) :
    closed ≤ 1 := by
  have hbalance := h.balance
  have honce := h.once
  omega

end Channel

end GraphClient.Session
