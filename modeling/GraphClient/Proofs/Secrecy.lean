import GraphClient.Proofs.Replies
import Mathlib.Data.List.Forall2

/-!
# Secrecy of the credentials

A session that is given other credentials does the same at the same events: it is in the same
states, its requests end with the same values and errors, and it sends the same messages but for the
initial response in the answers to challenges. Nothing that is sent before a challenge tells
anything about them.
-/

namespace GraphClient

/-- The object with another value in a field. -/
def Json.update (name : String) (f : Json → Json) : Json → Json
  | object members =>
    object (members.map fun (key, value) => (key, if key = name then f value else value))
  | json => json

/-- The settings with other credentials, if there are any. -/
def ClientConfig.withUser (k : Credentials) (config : ClientConfig) : ClientConfig :=
  { config with credentials := config.credentials.map fun _ => k }

/-- The request with other credentials in it, if there are any. -/
def Request.withUser (k : Credentials) (r : Request) : Request :=
  match r.body with
  | .authentication _ => { r with body := .authentication k.sasl }
  | .eval _ _ => r

/-- Only the initial response in the arguments differs. -/
lemma Request.toJson_withUser (k : Credentials) (r : Request) :
    (r.withUser k).toJson =
      r.toJson.update "args" (Json.update "sasl" fun _ => .string k.sasl) := by
  obtain ⟨id, processor, body⟩ := r
  cases body <;> rfl

namespace Activity

/-- The answer to a challenge that is going out has other credentials in it, and all else is the
same. -/
def withUser (k : Credentials) : Activity → Activity
  | sendingAnswer c answer => sendingAnswer c (answer.withUser k)
  | a => a

variable {k : Credentials} {a : Activity} {c : Conversation}

@[simp] lemma outcome_withUser : (a.withUser k).outcome? = a.outcome? := by cases a <;> rfl

@[simp] lemma holdsChannel_withUser : (a.withUser k).holdsChannel = a.holdsChannel := by
  cases a <;> rfl

@[simp] lemma isRequest_withUser : (a.withUser k).isRequest = a.isRequest := by cases a <;> rfl

end Activity

namespace Session

def withUser (k : Credentials) (x : Session) : Session :=
  { x with activity := x.activity.withUser k }

variable {config : ClientConfig} {k : Credentials} {now start : Instant} {x y : Session} {e : Event}

lemma withUser_conclude (x : Session) (outcome : Outcome) :
    (x.withUser k).conclude outcome = (x.conclude outcome).withUser k := by
  unfold conclude
  split
  · split <;> rfl
  · rfl

lemma withUser_onFrame (c : Conversation) (f : Response) :
    (x.withUser k).onFrame (config.withUser k) c f = (x.onFrame config c f).withUser k := by
  have hdecoder : (config.withUser k).decoder = config.decoder := rfl
  have hcredentials : (config.withUser k).credentials = config.credentials.map fun _ => k := rfl
  unfold onFrame
  rw [hdecoder]
  rcases c.exchange.onFrame config.decoder f with ⟨exchange, transition⟩
  cases transition with
  | proceed => rfl
  | complete values => exact withUser_conclude { x with state := .completed } _
  | fail e => exact withUser_conclude { x with state := .completed } _
  | authenticate =>
    dsimp only
    rw [hcredentials]
    cases config.credentials with
    | none => exact withUser_conclude x _
    | some credentials => rfl

lemma withUser_onReceived (c : Conversation) (result : Except TransportError (Option Message)) :
    (x.withUser k).onReceived (config.withUser k) c result =
      (x.onReceived config c result).withUser k := by
  have hpayload (payload : Except TransportError Response) :
      (x.withUser k).onPayload (config.withUser k) c payload =
        (x.onPayload config c payload).withUser k := by
    cases payload with
    | ok f => exact withUser_onFrame c f
    | error e =>
      exact withUser_conclude x (.error (.protocol ("Invalid response frame: " ++ e.text)))
  unfold onReceived
  split
  · exact withUser_conclude x _
  · exact withUser_conclude x _
  · unfold onMessage
    split
    · exact hpayload _
    · exact hpayload _
    · rfl
    · rfl
    · exact withUser_conclude x _

lemma withUser_claim : (x.withUser k).claim? (config.withUser k) =
    (x.claim? config).map (·.withUser k) := by
  obtain ⟨id, state, hasChannel, activity, keepalive, stopping⟩ := x
  cases activity with
  | claimingRequest i script =>
    cases hasChannel with
    | false => rfl
    | true =>
      have hsome : (config.withUser k).credentials.isSome = config.credentials.isSome :=
        Option.isSome_map
      simp only [claim?, withUser, Activity.withUser, hsome]
      rfl
  | claimingEnd => cases hasChannel <;> rfl
  | _ => rfl

lemma withUser_sent (failure : Option TransportError) :
    (x.withUser k).sent? failure = (x.sent? failure).map (·.withUser k) := by
  obtain ⟨id, state, hasChannel, activity, keepalive, stopping⟩ := x
  cases activity with
  | sendingRequest | sendingPong | sendingAnswer =>
    cases failure with
    | none => rfl
    | some e => exact congrArg some (withUser_conclude _ _)
  | _ => cases failure <;> rfl

lemma withUser_tick : (x.withUser k).tick? (config.withUser k) now =
    (x.tick? config now).map (·.withUser k) := by
  unfold tick?
  rw [show (x.withUser k).keepalive = x.keepalive from rfl]
  cases x.keepalive with
  | waiting next =>
    dsimp only
    rw [show (x.withUser k).hasChannel = x.hasChannel from rfl,
      show (x.withUser k).activity.holdsChannel = x.activity.holdsChannel from
        Activity.holdsChannel_withUser]
    split
    · split
      · rfl
      · split <;> rfl
    · rfl
  | _ => rfl

/-- A session with other credentials does the same at every event. -/
lemma withUser_step : (x.withUser k).step? (config.withUser k) now e =
    (x.step? config now e).map (·.withUser k) := by
  cases e with
  | claim =>
    rw [step?, step?, show (x.withUser k).keepalive = x.keepalive from rfl]
    split
    · rfl
    · exact withUser_claim
  | sent failure => exact withUser_sent failure
  | tick => exact withUser_tick
  | received result =>
    obtain ⟨id, state, hasChannel, activity, keepalive, stopping⟩ := x
    cases activity with
    | receiving c => exact congrArg some (withUser_onReceived c result)
    | _ => rfl
  | openExpired =>
    obtain ⟨id, state, hasChannel, activity, keepalive, stopping⟩ := x
    cases activity with
    | opening d =>
      simp only [step?, withUser, Activity.withUser]
      split <;> rfl
    | _ => rfl
  | cancel =>
    rw [step?, step?, show (x.withUser k).activity.isRequest = x.activity.isRequest from
      Activity.isRequest_withUser]
    split <;> rfl
  | pinged =>
    obtain ⟨id, state, hasChannel, activity, keepalive, stopping⟩ := x
    cases keepalive <;> rfl
  | stop =>
    obtain ⟨id, state, hasChannel, activity, keepalive, stopping⟩ := x
    cases keepalive with
    | waiting => cases stopping <;> rfl
    | _ => rfl
  | opened | submit | disconnect | collect | closed =>
    obtain ⟨id, state, hasChannel, activity, keepalive, stopping⟩ := x
    cases activity <;> rfl

lemma withUser_run {events : List (Instant × Event)} :
    (x.withUser k).run? (config.withUser k) events =
      (x.run? config events).map (·.withUser k) := by
  induction events generalizing x with
  | nil => rfl
  | cons event events ih =>
    obtain ⟨now, e⟩ := event
    rw [run?, run?, List.foldlM_cons, List.foldlM_cons]
    dsimp only
    rw [withUser_step]
    cases x.step? config now e with
    | none => rfl
    | some y => exact ih

/-- The frames that a request reads and its outcome do not tell with which credentials it was
made. -/
lemma withUser_after (t : Transcript) :
    t.after (x.withUser k) e (y.withUser k) = t.after x e y := by
  have hheard : (x.withUser k).heard? e = x.heard? e := by
    obtain ⟨id, state, hasChannel, activity, keepalive, stopping⟩ := x
    cases activity <;> rfl
  rw [Transcript.after, Transcript.after, hheard, Transcript.outcome?, Transcript.outcome?,
    withUser, withUser, Activity.outcome_withUser, Activity.outcome_withUser]

lemma withUser_transcript {events : List (Instant × Event)} (t : Transcript) :
    (x.withUser k).transcript (config.withUser k) t events = x.transcript config t events := by
  induction events generalizing x t with
  | nil => rfl
  | cons event events ih =>
    obtain ⟨now, e⟩ := event
    rw [transcript, transcript, withUser_step]
    cases x.step? config now e with
    | none => rfl
    | some y =>
      dsimp only [Option.map_some]
      rw [withUser_after, ih]

def Change.withUser (k : Credentials) (c : Change) : Change :=
  ⟨c.before.withUser k, c.event, c.after.withUser k⟩

lemma withUser_changes {events : List (Instant × Event)} :
    (x.withUser k).changes (config.withUser k) events =
      (x.changes config events).map (·.withUser k) := by
  induction events generalizing x with
  | nil => rfl
  | cons event events ih =>
    obtain ⟨now, e⟩ := event
    rw [changes, changes, withUser_step]
    cases x.step? config now e with
    | none => rfl
    | some y =>
      dsimp only [Option.map_some]
      rw [ih]
      rfl

/-- The change reads a challenge for the request that is on its way. -/
def Change.IsChallenge (c : Change) : Prop :=
  ∃ conversation m, c.before.activity = .receiving conversation ∧
    c.event = .received (.ok (some m)) ∧
    m.challenges conversation.exchange.requestId = true

lemma isChallenge_of_code {f : Response}
    (h : f.code? = some .unauthorized ∨ f.code? = some .authenticate) : f.isChallenge = true := by
  unfold Response.code? ResponseCode.ofCode? at h
  split at h <;> simp_all [Response.isChallenge]

lemma challenge_of_authenticate {exchange : Exchange} {f : Response}
    (h : (exchange.onFrame config.decoder f).2 = .authenticate) :
    f.isFor exchange.requestId = true ∧ f.isChallenge = true := by
  have hown : f.isFor exchange.requestId = true := by
    by_contra hown
    rw [Exchange.onFrame_of_foreign config.decoder (by simpa using hown)] at h
    cases h
  refine ⟨hown, ?_⟩
  unfold Exchange.onFrame at h
  split at h
  · cases h
  · split at h
    · cases h
    · rename_i known hcode
      split at h
      · exact isChallenge_of_code (.inl hcode)
      · exact isChallenge_of_code (.inr hcode)
      · cases h
      · cases h
      · cases h
      · split at h <;> cases h

lemma not_answer_of_done {a : Activity} {c : Conversation} {answer : Request}
    (h : a.isDone = true) : a ≠ .sendingAnswer c answer := by
  rintro rfl
  cases h

/-- An answer is sent only to a challenge, and with the credentials of the settings. -/
lemma answer_of_frame {c c' : Conversation} {f : Response} {answer : Request}
    (h : (x.onFrame config c f).activity = .sendingAnswer c' answer) :
    f.isFor c.exchange.requestId = true ∧ f.isChallenge = true ∧
      ∃ credentials, config.credentials = some credentials ∧
        answer = .authentication c.request.id config.processor credentials := by
  cases ht : (c.exchange.onFrame config.decoder f).2 with
  | proceed =>
    rw [onFrame_of_proceed ht] at h
    cases h
  | complete | fail =>
    exact absurd h (not_answer_of_done (onFrame_isDone (by rw [ht]; rfl)))
  | authenticate =>
    obtain ⟨hown, hchallenge⟩ := challenge_of_authenticate ht
    refine ⟨hown, hchallenge, ?_⟩
    cases hc : config.credentials with
    | none =>
      unfold onFrame at h
      dsimp only at h
      rw [ht, hc] at h
      exact absurd h (not_answer_of_done (conclude_isDone x _))
    | some credentials =>
      rw [onFrame_of_authenticate ht hc] at h
      cases h
      exact ⟨credentials, rfl, rfl⟩

lemma answer_of_received {c c' : Conversation} {answer : Request}
    {result : Except TransportError (Option Message)}
    (h : (x.onReceived config c result).activity = .sendingAnswer c' answer) :
    ∃ m, result = .ok (some m) ∧ m.challenges c.exchange.requestId = true ∧
      ∃ credentials, config.credentials = some credentials ∧
        answer = .authentication c.request.id config.processor credentials := by
  have hpayload {m : Message} {payload : Except TransportError Response}
      (hm : m.response? = payload.toOption)
      (h : (x.onPayload config c payload).activity = .sendingAnswer c' answer) :
      m.challenges c.exchange.requestId = true ∧
        ∃ credentials, config.credentials = some credentials ∧
          answer = .authentication c.request.id config.processor credentials := by
    cases payload with
    | ok f =>
      obtain ⟨hown, hchallenge, hcredentials⟩ := answer_of_frame h
      exact ⟨by rw [Message.challenges, hm]; simp [Except.toOption, hown, hchallenge], hcredentials⟩
    | error e => exact absurd h (not_answer_of_done (conclude_isDone x _))
  unfold onReceived at h
  split at h
  · exact absurd h (not_answer_of_done (conclude_isDone x _))
  · exact absurd h (not_answer_of_done (conclude_isDone x _))
  · rename_i m
    cases m with
    | text | binary => exact ⟨_, rfl, hpayload rfl h⟩
    | ping | pong => cases h
    | close => exact absurd h (not_answer_of_done (conclude_isDone x _))

/-- An answer begins to go out only where a challenge is read. -/
lemma answer_of_step {c' : Conversation} {answer : Request} (h : x.step? config now e = some y)
    (hx : x.activity.outgoing? config.messageFormat = none)
    (hy : y.activity = .sendingAnswer c' answer) :
    (Change.mk x e y).IsChallenge ∧ ∃ id credentials, config.credentials = some credentials ∧
      answer = .authentication id config.processor credentials := by
  rcases proceeds_or_directed h with hp | hd
  · cases hp with
    | received c result ha =>
      obtain ⟨m, rfl, hm, credentials, hc, hanswer⟩ := answer_of_received hy
      exact ⟨⟨c, m, ha, rfl, hm⟩, c.request.id, credentials, hc, hanswer⟩
    | keepalive =>
      rw [show x.activity = _ from hy] at hx
      cases hx
    | sendFailed => exact absurd hy (not_answer_of_done (conclude_isDone x _))
    | _ => cases hy
  · cases hd <;> cases hy

lemma outgoing_withUser {a : Activity} {format : MessageFormat}
    (h : ∀ c answer, a ≠ .sendingAnswer c answer) :
    (a.withUser k).outgoing? format = a.outgoing? format := by
  cases a with
  | sendingAnswer c answer => exact absurd rfl (h c answer)
  | _ => rfl

lemma begun_of_answer {c : Conversation} {answer : Request}
    (hheld : x.activity.holdsChannel = true) (h : x.step? config now e = some y)
    (hx : x.activity.outgoing? config.messageFormat = none)
    (hy : y.activity = .sendingAnswer c answer) :
    (Change.mk x e y).begun config = [config.dispatch answer] := by
  rw [begun_of_held hheld h, begun_of_free hx, hy]
  rfl

/-- A change with other credentials sends the same, unless it answers a challenge. -/
theorem begun_withUser (k : Credentials) (h : x.step? config now e = some y) :
    ((Change.mk x e y).withUser k).begun (config.withUser k) = (Change.mk x e y).begun config ∨
      ((Change.mk x e y).IsChallenge ∧ ∃ id credentials, config.credentials = some credentials ∧
        (Change.mk x e y).begun config =
          [config.dispatch (.authentication id config.processor credentials)] ∧
        ((Change.mk x e y).withUser k).begun (config.withUser k) =
          [config.dispatch (.authentication id config.processor k)]) := by
  have hformat : (config.withUser k).messageFormat = config.messageFormat := rfl
  have hsame (hb : ((Change.mk x e y).withUser k).begun? (config.withUser k) =
      (Change.mk x e y).begun? config) :
      ((Change.mk x e y).withUser k).begun (config.withUser k) =
        (Change.mk x e y).begun config := by
    rw [Change.begun, hb]
    rfl
  cases hx : x.activity.outgoing? config.messageFormat with
  | some d =>
    left
    obtain ⟨d', hd'⟩ : ∃ d', (x.withUser k).activity.outgoing? config.messageFormat = some d' := by
      rw [withUser]
      cases ha : x.activity <;> simp_all [Activity.outgoing?, Activity.withUser]
    have hsent : ((Change.mk x e y).withUser k).begun? (config.withUser k) = none :=
      begun_of_outgoing hd'
    refine hsame ?_
    rw [hsent, begun_of_outgoing hx]
  | none =>
    have hxk : (x.withUser k).activity.outgoing? config.messageFormat = none := by
      rw [withUser, outgoing_withUser fun c answer ha => by rw [ha] at hx; cases hx]
      exact hx
    have hbegun : ((Change.mk x e y).withUser k).begun? (config.withUser k) =
        (y.activity.withUser k).outgoing? config.messageFormat :=
      begun_of_free hxk
    by_cases hy : ∃ c answer, y.activity = .sendingAnswer c answer
    · obtain ⟨c, answer, hy⟩ := hy
      obtain ⟨hchallenge, id, credentials, hc, rfl⟩ := answer_of_step h hx hy
      have hheld : x.activity.holdsChannel = true := by
        obtain ⟨conversation, -, ha, -⟩ := hchallenge
        rw [show x.activity = _ from ha]
        rfl
      have hk : (x.withUser k).step? (config.withUser k) now e = some (y.withUser k) := by
        rw [withUser_step, h]
        rfl
      refine .inr ⟨hchallenge, id, credentials, hc, begun_of_answer hheld h hx hy, ?_⟩
      exact begun_of_answer (by rwa [withUser, Activity.holdsChannel_withUser]) hk hxk
        (by rw [withUser, hy]; rfl)
    · left
      refine hsame ?_
      rw [hbegun, begun_of_free hx, outgoing_withUser fun c answer hc => hy ⟨c, answer, hc⟩]

/-- The same message, or the answer to a challenge with another initial response. -/
inductive SameButUser (config : ClientConfig) (k : Credentials) : Dispatch → Dispatch → Prop
  | same (d : Dispatch) : SameButUser config k d d
  | answer (r r' : Request) (hr : r.isAnswer = true) (hr' : r'.isAnswer = true)
      (hjson : r'.toJson = r.toJson.update "args" (Json.update "sasl" fun _ => .string k.sasl)) :
      SameButUser config k (config.dispatch r) (config.dispatch r')

lemma sameButUser_of_step (k : Credentials) (h : x.step? config now e = some y) :
    List.Forall₂ (SameButUser config k) ((Change.mk x e y).begun config)
      (((Change.mk x e y).withUser k).begun (config.withUser k)) := by
  rcases begun_withUser k h with heq | ⟨-, id, credentials, -, hone, hother⟩
  · rw [heq, List.forall₂_same]
    exact fun d _ => .same d
  · rw [hone, hother]
    refine .cons (.answer _ _ rfl rfl ?_) .nil
    exact Request.toJson_withUser k (.authentication id config.processor credentials)

lemma sameButUser_of_course {path : List Change} (h : Course config x path y) :
    List.Forall₂ (SameButUser config k) (begun config path)
      (begun (config.withUser k) (path.map (·.withUser k))) := by
  induction h with
  | start => exact .nil
  | step _ hs ih =>
    rw [List.map_append, List.map_singleton, begun_concat, begun_concat]
    exact List.rel_append ih (sameButUser_of_step k hs)

lemma begun_of_unchallenged {path : List Change} (h : Course config x path y)
    (hc : ∀ c ∈ path, ¬c.IsChallenge) :
    begun (config.withUser k) (path.map (·.withUser k)) = begun config path := by
  induction h with
  | start => rfl
  | step _ hs ih =>
    rw [List.map_append, List.map_singleton, begun_concat, begun_concat,
      ih fun c hm => hc c (List.mem_append_left _ hm)]
    rcases begun_withUser k hs with heq | ⟨hchallenge, -⟩
    · rw [heq]
    · exact absurd hchallenge (hc _ (List.mem_append_right _ List.mem_cons_self))

lemma course_of_changes (config : ClientConfig) (x : Session) (events : List (Instant × Event)) :
    ∃ y, Course config x (x.changes config events) y := by
  induction events generalizing x with
  | nil => exact ⟨x, .start⟩
  | cons event events ih =>
    obtain ⟨now, e⟩ := event
    rw [changes]
    cases hs : x.step? config now e with
    | none => exact ⟨x, .start⟩
    | some z =>
      obtain ⟨y, hy⟩ := ih z
      exact ⟨y, (Course.step .start hs).trans hy⟩

/-- What other credentials make of the run of a session. -/
structure KeptSecret (config : ClientConfig) (k : Credentials) (id : Nat) (start : Instant)
    (events : List (Instant × Event)) : Prop where
  /-- The session is in the same state. -/
  state : (opening (config.withUser k) id start).run? (config.withUser k) events =
    ((opening config id start).run? config events).map (·.withUser k)
  /-- It has been in the same states before. -/
  states : (opening (config.withUser k) id start).changes (config.withUser k) events =
    ((opening config id start).changes config events).map (·.withUser k)
  /-- Its requests have read the same frames and have the same outcomes. -/
  outcomes : (opening (config.withUser k) id start).transcript (config.withUser k) .empty events =
    (opening config id start).transcript config .empty events
  /-- It has sent the same messages, but for the initial response in answers. -/
  sent : List.Forall₂ (SameButUser config k)
    (begun config ((opening config id start).changes config events))
    (begun (config.withUser k)
      ((opening (config.withUser k) id start).changes (config.withUser k) events))
  /-- As long as a request reads no challenge it sends the very same messages. -/
  unchallenged : ∀ before between after,
    (opening config id start).changes config events = before ++ between ++ after →
    (∀ c ∈ between, ¬c.IsChallenge) →
    begun (config.withUser k) (between.map (·.withUser k)) = begun config between

/-- No state, no result and no error of a session depends on which credentials it is given, and
nothing that it sends but its answers to challenges. -/
theorem credentials_keptSecret (config : ClientConfig) (k : Credentials) (id : Nat)
    (start : Instant) (events : List (Instant × Event)) : KeptSecret config k id start events := by
  have hopening : opening (config.withUser k) id start = (opening config id start).withUser k := rfl
  obtain ⟨y, hy⟩ := course_of_changes config (opening config id start) events
  constructor
  case state =>
    rw [hopening]
    exact withUser_run
  case states =>
    rw [hopening]
    exact withUser_changes
  case outcomes =>
    rw [hopening]
    exact withUser_transcript _
  case sent =>
    rw [hopening, withUser_changes]
    exact sameButUser_of_course hy
  case unchallenged =>
    intro before between after hsplit hc
    obtain ⟨v, hv, -⟩ := hy.split hsplit
    obtain ⟨w, -, hbetween⟩ := hv.split rfl
    exact begun_of_unchallenged hbetween hc

end Session

end GraphClient
