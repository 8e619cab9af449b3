import GraphClient.Pool.Step
import Mathlib.Tactic.Common

/-!
# Stages of a session

The events that come from the channel, the keepalive and the clock never take a session from one
user to another: a session at rest stays at rest, a request stays a request until its user takes
note of its end, and a session that is being disconnected is not used again.
-/

namespace GraphClient

/-- What a session is there for at the moment. -/
inductive Stage where
  | opening
  | resting
  | serving
  | ending
  deriving DecidableEq, Repr

namespace Activity

def stage : Activity → Stage
  | opening _ => .opening
  | resting => .resting
  | claimingRequest _ _ | sendingRequest _ | receiving _ | sendingPong _ _ | sendingAnswer _ _
  | closingAfter _ | finished _ => .serving
  | claimingEnd | closing | ended => .ending

/-- The conversation whose request is out and whose exchange has not ended. -/
def conversation? : Activity → Option Conversation
  | sendingRequest c | receiving c | sendingPong c _ | sendingAnswer c _ => some c
  | _ => none

/-- The conversation for which a message is going out. -/
def sending? : Activity → Option Conversation
  | sendingRequest c | sendingPong c _ | sendingAnswer c _ => some c
  | _ => none

lemma conversation_of_sending {a : Activity} {c : Conversation} (h : a.sending? = some c) :
    a.conversation? = some c := by
  cases a <;> simp_all [sending?, conversation?]

lemma stage_of_conversation {a : Activity} {c : Conversation} (h : a.conversation? = some c) :
    a.stage = .serving := by
  cases a <;> simp_all [conversation?, stage]

lemma isRequest_or_finished {a : Activity} (h : a.stage = .serving) :
    a.isRequest = true ∨ ∃ outcome, a = .finished outcome := by
  cases a <;> simp_all [stage, isRequest]

end Activity

namespace Session

/-- The session is being disconnected, and without its channel from the moment its user has it. -/
def IsEnding (x : Session) : Prop :=
  x.activity = .claimingEnd ∨ (x.activity = .closing ∧ x.hasChannel = false) ∨
    (x.activity = .ended ∧ x.hasChannel = false ∧ x.isConnected = false)

/-- The session has been disconnected for good. -/
def IsOver (x : Session) : Prop :=
  x.activity = .resting ∧ x.hasChannel = false ∧ x.isConnected = false

section Conclude

variable (config : ClientConfig) (x : Session) (c : Conversation)

lemma conclude_stage (outcome : Outcome) : (x.conclude outcome).activity.stage = .serving := by
  unfold conclude
  split
  · split <;> rfl
  · rfl

lemma onFrame_stage (frame : Response) : (x.onFrame config c frame).activity.stage = .serving := by
  unfold onFrame
  dsimp only
  split
  · rfl
  · exact conclude_stage _ _
  · exact conclude_stage _ _
  · split
    · exact conclude_stage _ _
    · rfl

lemma onReceived_stage (result : Except TransportError (Option Message)) :
    (x.onReceived config c result).activity.stage = .serving := by
  unfold onReceived
  split
  · exact conclude_stage _ _
  · exact conclude_stage _ _
  · unfold onMessage
    split
    · unfold onPayload
      split
      · exact onFrame_stage _ _ _ _
      · exact conclude_stage _ _
    · unfold onPayload
      split
      · exact onFrame_stage _ _ _ _
      · exact conclude_stage _ _
    · rfl
    · rfl
    · exact conclude_stage _ _

end Conclude

/-- What a session does by itself: one constructor for each way in which its channel, its keepalive
or the clock moves it on. -/
inductive Proceeds (config : ClientConfig) (now : Instant) (x : Session) : Event → Session → Prop
  | opened (d : Instant) (success : Bool) (hx : x.activity = .opening d) :
      Proceeds config now x (.opened success) (x.started config now success)
  | openExpired (d : Instant) (hx : x.activity = .opening d) (hd : d ≤ now) :
      Proceeds config now x .openExpired (x.started config now false)
  | claimRequest (id : Uuid) (script : String) (hx : x.activity = .claimingRequest id script)
      (hk : x.keepalive.isPinging = false) (hc : x.hasChannel = true) :
      Proceeds config now x .claim
        { x with
          state := .sending
          activity := .sendingRequest
            ⟨Request.eval id script config.processor config.language,
              Exchange.new id config.credentials.isSome⟩ }
  | claimNothing (id : Uuid) (script : String) (hx : x.activity = .claimingRequest id script)
      (hk : x.keepalive.isPinging = false) (hc : x.hasChannel = false) :
      Proceeds config now x .claim
        { x with state := .disconnected, activity := .finished (.error x.notConnected) }
  | claimEnd (hx : x.activity = .claimingEnd) (hk : x.keepalive.isPinging = false)
      (hc : x.hasChannel = true) :
      Proceeds config now x .claim { x with hasChannel := false, activity := .closing }
  | claimEnded (hx : x.activity = .claimingEnd) (hk : x.keepalive.isPinging = false)
      (hc : x.hasChannel = false) :
      Proceeds config now x .claim { x with state := .disconnected, activity := .ended }
  | sentRequest (c : Conversation) (hx : x.activity = .sendingRequest c) :
      Proceeds config now x (.sent none)
        { x with state := c.exchange.state, activity := .receiving c }
  | sentPong (c : Conversation) (payload : ByteArray) (hx : x.activity = .sendingPong c payload) :
      Proceeds config now x (.sent none) { x with activity := .receiving c }
  | sentAnswer (c : Conversation) (answer : Request) (hx : x.activity = .sendingAnswer c answer) :
      Proceeds config now x (.sent none) { x with state := .awaitingFrame, activity := .receiving c }
  | sendFailed (c : Conversation) (e : TransportError) (hx : x.activity.sending? = some c) :
      Proceeds config now x (.sent (some e)) (x.conclude (.error e.toClientError))
  | received (c : Conversation) (result : Except TransportError (Option Message))
      (hx : x.activity = .receiving c) :
      Proceeds config now x (.received result) (x.onReceived config c result)
  | closedAfter (e : ClientError) (hx : x.activity = .closingAfter e) :
      Proceeds config now x .closed
        { x with
          state := .disconnected, stopping := true, activity := .finished (.error e) }
  | closedEnd (hx : x.activity = .closing) :
      Proceeds config now x .closed { x with state := .disconnected, activity := .ended }
  | keepalive (e : Event) (k : Keepalive) (he : e = .tick ∨ e = .pinged ∨ e = .stop) :
      Proceeds config now x e { x with keepalive := k }

variable {config : ClientConfig} {now : Instant} {x y : Session} {e : Event}

lemma proceeds_of_claim (hk : x.keepalive.isPinging = false) (h : x.claim? config = some y) :
    Proceeds config now x .claim y := by
  unfold claim? at h
  split at h
  · rename_i id script hx
    split at h <;> rename_i hc <;> cases h
    · exact .claimRequest id script hx hk hc
    · exact .claimNothing id script hx hk (by simpa using hc)
  · rename_i hx
    split at h <;> rename_i hc <;> cases h
    · exact .claimEnd hx hk hc
    · exact .claimEnded hx hk (by simpa using hc)
  · cases h

lemma proceeds_of_sent {failure : Option TransportError} (h : x.sent? failure = some y) :
    Proceeds config now x (.sent failure) y := by
  unfold sent? at h
  split at h <;> rename_i hx <;> cases h
  · exact .sentRequest _ hx
  · exact .sentPong _ _ hx
  · exact .sentAnswer _ _ hx
  · exact .sendFailed _ _ (by rw [hx]; rfl)
  · exact .sendFailed _ _ (by rw [hx]; rfl)
  · exact .sendFailed _ _ (by rw [hx]; rfl)

lemma proceeds_of_closed (h : x.closed? = some y) : Proceeds config now x .closed y := by
  unfold closed? at h
  split at h <;> rename_i hx <;> cases h
  · exact .closedAfter _ hx
  · exact .closedEnd hx

lemma proceeds_of_tick (h : x.tick? config now = some y) : Proceeds config now x .tick y := by
  unfold tick? at h
  dsimp only at h
  split at h
  · split at h
    · split at h
      · cases h
        exact .keepalive _ _ (.inl rfl)
      · split at h <;> cases h <;> exact .keepalive _ _ (.inl rfl)
    · cases h
  · cases h

/-- A step that is not a step of the user is one in which the session proceeds by itself. -/
theorem proceeds_of_step (he : Pool.isOwnEvent e = true) (h : x.step? config now e = some y) :
    Proceeds config now x e y := by
  unfold step? at h
  split at h
  · split at h
    · rename_i d hx
      cases h
      exact .opened d _ hx
    · cases h
  · split at h
    · rename_i d hx
      split at h
      · rename_i hd
        cases h
        exact .openExpired d hx hd
      · cases h
    · cases h
  · cases he
  · cases he
  · cases he
  · cases he
  · split at h
    · cases h
    · rename_i hk
      exact proceeds_of_claim (by simpa using hk) h
  · exact proceeds_of_sent h
  · split at h
    · rename_i c hx
      cases h
      exact .received c _ hx
    · cases h
  · exact proceeds_of_closed h
  · exact proceeds_of_tick h
  · split at h
    · cases h
      exact .keepalive _ _ (.inr (.inl rfl))
    · cases h
  · split at h
    · split at h
      · cases h
        exact .keepalive _ _ (.inr (.inr rfl))
      · cases h
    · cases h

namespace Proceeds

/-- A session at rest, or over, sees only its keepalive. -/
lemma of_resting (h : Proceeds config now x e y) (hx : x.activity = .resting) :
    ∃ k, y = { x with keepalive := k } := by
  cases h with
  | keepalive _ k _ => exact ⟨k, rfl⟩
  | sendFailed c _ hs => simp [hx, Activity.sending?] at hs
  | _ => simp_all

lemma of_serving (h : Proceeds config now x e y) (hx : x.activity.stage = .serving) :
    y.activity.stage = .serving := by
  cases h with
  | opened _ _ ha => simp [ha, Activity.stage] at hx
  | openExpired _ ha => simp [ha, Activity.stage] at hx
  | claimRequest => rfl
  | claimNothing => rfl
  | claimEnd ha => simp [ha, Activity.stage] at hx
  | claimEnded ha => simp [ha, Activity.stage] at hx
  | sentRequest => rfl
  | sentPong => rfl
  | sentAnswer => rfl
  | sendFailed => exact conclude_stage _ _
  | received => exact onReceived_stage _ _ _ _
  | closedAfter => rfl
  | closedEnd ha => simp [ha, Activity.stage] at hx
  | keepalive => exact hx

lemma of_ending (h : Proceeds config now x e y) (hx : x.IsEnding) : y.IsEnding := by
  unfold IsEnding isConnected at *
  cases h with
  | sendFailed c _ hs =>
    have := Activity.stage_of_conversation (Activity.conversation_of_sending hs)
    rcases hx with ha | ⟨ha, -⟩ | ⟨ha, -⟩ <;> simp [ha, Activity.stage] at this
  | keepalive => exact hx
  | _ => simp_all

lemma of_opening (h : Proceeds config now x e y)
    (hx : x.activity.stage = .opening) : y.activity.stage = .opening ∨ y.activity = .resting := by
  cases h with
  | opened => exact .inr rfl
  | openExpired => exact .inr rfl
  | keepalive => exact .inl hx
  | sendFailed c _ hs =>
    have := Activity.stage_of_conversation (Activity.conversation_of_sending hs)
    simp [this] at hx
  | _ => simp_all [Activity.stage]

end Proceeds

end Session

end GraphClient
