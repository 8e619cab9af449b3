import GraphClient.Proofs.Keepalives

/-!
# What a request sends

A request goes out first, and then whatever the messages that come in call for, in their order: a
ping calls for a pong with its payload, and the first challenge of the request for the credentials,
where there are any. The keepalive sends nothing meanwhile, and once a message could not be sent
there is no other.
-/

namespace GraphClient

/-- A message that goes out, and the request in it. -/
abbrev Dispatch := Message × Option Request

def ClientConfig.dispatch (config : ClientConfig) (r : Request) : Dispatch :=
  (r.toMessage config.messageFormat, some r)

/-- The request answers a challenge. -/
def Request.isAnswer (r : Request) : Bool :=
  match r.body with
  | .authentication _ => true
  | .eval _ _ => false

namespace Message

def pinged? : Message → Option ByteArray
  | ping payload => some payload
  | _ => none

def ponged? : Message → Option ByteArray
  | pong payload => some payload
  | _ => none

/-- The message is a challenge for the request with this identifier. -/
def challenges (m : Message) (id : Uuid) : Bool :=
  m.response?.any fun f => f.isFor id && f.isChallenge

end Message

/-- What a request that has been challenged or not sends in answer to a message. -/
def reply? (config : ClientConfig) (id : Uuid) (challenged : Bool) (m : Message) :
    Option Dispatch :=
  match m with
  | .ping payload => some (.pong payload, none)
  | m =>
    if m.challenges id && !challenged then
      config.credentials.map fun credentials =>
        config.dispatch (.authentication id config.processor credentials)
    else none

/-- What a request sends in answer to one message after another. -/
def replies (config : ClientConfig) (id : Uuid) (challenged : Bool) : List Message → List Dispatch
  | [] => []
  | m :: ms =>
    (reply? config id challenged m).toList ++
      replies config id (challenged || m.challenges id) ms

section Lists

variable {config : ClientConfig} {id : Uuid} {challenged : Bool} {m : Message} {ms : List Message}

lemma replies_concat (challenged : Bool) (ms : List Message) :
    replies config id challenged (ms ++ [m]) = replies config id challenged ms ++
      (reply? config id (challenged || ms.any (·.challenges id)) m).toList := by
  induction ms generalizing challenged with
  | nil => simp [replies]
  | cons n ms ih =>
    rw [List.cons_append, replies, ih, replies, List.append_assoc, List.any_cons, Bool.or_assoc]

lemma ponged_toMessage (r : Request) (format : MessageFormat) :
    (r.toMessage format).ponged? = none := by
  cases format <;> rfl

/-- A reply is the pong for a ping, or the answer to a challenge. -/
lemma reply_eq_some {d : Dispatch} (h : reply? config id challenged m = some d) :
    (∃ payload, m = .ping payload ∧ d = (.pong payload, none)) ∨
      (m.pinged? = none ∧ m.challenges id = true ∧ challenged = false ∧
        ∃ credentials, config.credentials = some credentials ∧
          d = config.dispatch (.authentication id config.processor credentials)) := by
  unfold reply? at h
  split at h
  · cases h
    exact .inl ⟨_, rfl, rfl⟩
  · rename_i hping
    split at h
    · rename_i hfirst
      rw [Bool.and_eq_true, Bool.not_eq_true'] at hfirst
      obtain ⟨credentials, hc, rfl⟩ := Option.map_eq_some_iff.1 h
      refine .inr ⟨?_, hfirst.1, hfirst.2, credentials, hc, rfl⟩
      cases m with
      | ping payload => exact absurd rfl (hping payload)
      | _ => rfl
    · cases h

/-- The pongs are for the pings, one for one and in their order. -/
lemma ponged_replies (challenged : Bool) (ms : List Message) :
    (replies config id challenged ms).filterMap (·.1.ponged?) = ms.filterMap (·.pinged?) := by
  induction ms generalizing challenged with
  | nil => rfl
  | cons m ms ih =>
    have hone : (reply? config id challenged m).toList.filterMap (·.1.ponged?) =
        m.pinged?.toList := by
      cases h : reply? config id challenged m with
      | none =>
        cases m with
        | ping payload => cases h
        | _ => rfl
      | some d =>
        rcases reply_eq_some h with ⟨payload, rfl, rfl⟩ | ⟨hm, -, -, credentials, -, rfl⟩
        · rfl
        · rw [hm, Option.toList_some]
          exact List.filterMap_cons_none (ponged_toMessage _ _)
    rw [replies, List.filterMap_append, hone, ih]
    cases h : m.pinged? <;> simp [h]

/-- A request that has been challenged is not answered for again. -/
lemma answers_of_challenged (ms : List Message) :
    (replies config id true ms).countP (·.2.any (·.isAnswer)) = 0 := by
  induction ms with
  | nil => rfl
  | cons m ms ih =>
    rw [replies, List.countP_append, Bool.true_or, ih]
    cases h : reply? config id true m with
    | none => rfl
    | some d =>
      rcases reply_eq_some h with ⟨payload, -, rfl⟩ | ⟨-, -, hc, -⟩
      · rfl
      · cases hc

/-- The first challenge is answered if there are credentials, and no other. -/
lemma answers_of_replies (ms : List Message) :
    (replies config id false ms).countP (·.2.any (·.isAnswer)) =
      if ms.any (·.challenges id) then config.credentials.toList.length else 0 := by
  induction ms with
  | nil => rfl
  | cons m ms ih =>
    rw [replies, List.countP_append, Bool.false_or, List.any_cons]
    cases hm : m.challenges id with
    | false =>
      have hreply : (reply? config id false m).toList.countP (·.2.any (·.isAnswer)) = 0 := by
        cases h : reply? config id false m with
        | none => rfl
        | some d =>
          rcases reply_eq_some h with ⟨payload, -, rfl⟩ | ⟨-, hc, -⟩
          · rfl
          · rw [hm] at hc
            cases hc
      rw [hreply, ih, Nat.zero_add, Bool.false_or]
    | true =>
      rw [answers_of_challenged, Nat.add_zero, Bool.true_or, if_pos rfl]
      cases m with
      | ping => cases hm
      | _ =>
        rw [reply?, hm]
        · cases config.credentials <;> rfl
        · exact nofun

lemma id_of_replies {r : Request} {d : Dispatch} (challenged : Bool) (ms : List Message)
    (hd : d ∈ replies config id challenged ms) (hr : d.2 = some r) : r.id = id := by
  induction ms generalizing challenged with
  | nil => cases hd
  | cons m ms ih =>
    rw [replies, List.mem_append] at hd
    rcases hd with hd | hd
    · rcases reply_eq_some (Option.mem_toList.1 hd) with ⟨_, -, rfl⟩ | ⟨-, -, -, _, -, rfl⟩
      · cases hr
      · cases hr
        rfl
    · exact ih _ hd

end Lists

namespace Activity

/-- The request has an outcome, or gets one as soon as the channel is closed. -/
def isDone : Activity → Bool
  | closingAfter _ | finished _ => true
  | _ => false

end Activity

namespace Session

namespace Change

/-- What begins to go out for the user of the session. -/
def begun? (config : ClientConfig) (c : Change) : Option Dispatch :=
  match c.before.activity.outgoing? config.messageFormat with
  | none => c.after.activity.outgoing? config.messageFormat
  | some _ => none

/-- What begins to go out, for the user or as a ping of the keepalive. -/
def begun (config : ClientConfig) (c : Change) : List Dispatch :=
  (c.begun? config).toList ++
    if !c.before.keepalive.isPinging && c.after.keepalive.isPinging then [(.ping .empty, none)]
    else []

/-- What is out. -/
def gone? (config : ClientConfig) (c : Change) : Option Dispatch :=
  match c.event with
  | .sent none => c.before.activity.outgoing? config.messageFormat
  | _ => none

/-- The message that is read. -/
def read? (c : Change) : Option Message :=
  match c.event with
  | .received (.ok (some m)) => some m
  | _ => none

/-- A message could not be sent. -/
def failsToSend (c : Change) : Bool :=
  match c.event with
  | .sent (some _) => true
  | _ => false

/-- The request has no outcome yet, and its user lets it go on. -/
def isUnderway (c : Change) : Bool :=
  Pool.isOwnEvent c.event && c.before.activity.outcome?.isNone

end Change

lemma Change.isUnderway_iff {c : Change} : c.isUnderway = true ↔
    Pool.isOwnEvent c.event = true ∧ c.before.activity.outcome? = none := by
  rw [isUnderway, Bool.and_eq_true, Option.isNone_iff_eq_none]

/-- Everything that begins to go out on a course, in its order. -/
def begun (config : ClientConfig) (path : List Change) : List Dispatch :=
  path.flatMap (·.begun config)

/-- Everything that goes out for the user on a course. -/
def gone (config : ClientConfig) (path : List Change) : List Dispatch :=
  path.filterMap (·.gone? config)

/-- The messages that are read on a course. -/
def read (path : List Change) : List Message := path.filterMap (·.read?)

/-- What a request sends that has read some messages. -/
def sends (config : ClientConfig) (id : Uuid) (script : String) (ms : List Message) :
    List Dispatch :=
  config.dispatch (.eval id script config.processor config.language) ::
    replies config id false ms

/-- How a request stands that has read some messages and sent some. -/
inductive Replying (config : ClientConfig) (id : Uuid) (script : String) (ms : List Message)
    (sent : List Dispatch) (x : Session) : Prop
  | claiming (ha : x.activity = .claimingRequest id script) (hc : x.hasChannel = true)
      (hm : ms = []) (hs : sent = []) : Replying config id script ms sent x
  | talking (c : Conversation) (ha : x.activity.conversation? = some c)
      (hc : c.request = .eval id script config.processor config.language)
      (hp : Exchange.Pending id config.credentials.isSome (ms.filterMap (·.response?)))
      (hx : Exchange.Reached id config.credentials.isSome config.decoder
        (ms.filterMap (·.response?)) c.exchange)
      (hs : sent = sends config id script ms) : Replying config id script ms sent x
  | done (ha : x.activity.isDone = true) (hs : sent = sends config id script ms) :
      Replying config id script ms sent x

variable {config : ClientConfig} {now : Instant} {id : Uuid} {script : String} {x y z : Session}
variable {e : Event} {path after : List Change} {ms : List Message} {sent : List Dispatch}

lemma conclude_isDone (x : Session) (outcome : Outcome) :
    (x.conclude outcome).activity.isDone = true := by
  unfold conclude
  split
  · split <;> rfl
  · rfl

lemma outgoing_of_done {a : Activity} (h : a.isDone = true) (format : MessageFormat) :
    a.outgoing? format = none := by
  cases a <;> first | rfl | cases h

lemma any_challenges (id : Uuid) (ms : List Message) :
    (Exchange.own id (ms.filterMap (·.response?))).any (·.isChallenge) =
      ms.any (·.challenges id) := by
  induction ms with
  | nil => rfl
  | cons m ms ih =>
    rw [List.any_cons, ← ih, Message.challenges]
    cases hm : m.response? with
    | none => rw [List.filterMap_cons_none hm]; rfl
    | some f =>
      rw [List.filterMap_cons_some hm]
      cases hf : f.isFor id <;> simp [Exchange.own, hf]

lemma sends_concat (m : Message) :
    sends config id script (ms ++ [m]) = sends config id script ms ++
      (reply? config id (ms.any (·.challenges id)) m).toList := by
  rw [sends, sends, replies_concat, Bool.false_or, List.cons_append]

lemma ponged_sends (ms : List Message) :
    (sends config id script ms).filterMap (·.1.ponged?) = ms.filterMap (·.pinged?) := by
  rw [sends, List.filterMap_cons_none, ponged_replies]
  exact ponged_toMessage _ _

lemma answers_of_sends (ms : List Message) :
    (sends config id script ms).countP (·.2.any (·.isAnswer)) =
      if ms.any (·.challenges id) then config.credentials.toList.length else 0 := by
  rw [sends, ← answers_of_replies]
  exact List.countP_cons_of_neg (Bool.eq_false_iff.1 rfl)

lemma id_of_sends {r : Request} {d : Dispatch} (hd : d ∈ sends config id script ms)
    (hr : d.2 = some r) : r.id = id := by
  rcases List.mem_cons.1 hd with rfl | hd
  · cases hr
    rfl
  · exact id_of_replies _ _ hd hr

/-- A message that ends a request calls for no reply. -/
lemma replying_of_done {m : Message} (hy : y.activity.isDone = true)
    (hm : reply? config id (ms.any (·.challenges id)) m = none) :
    Replying config id script (ms ++ [m])
      (sends config id script ms ++ (y.activity.outgoing? config.messageFormat).toList) y := by
  refine .done hy ?_
  rw [outgoing_of_done hy, sends_concat, hm]

/-- A challenge of the request does not end its exchange exactly if it is the first and there are
credentials. -/
lemma passes_challenge_iff {hasCredentials : Bool} {before : List Response} {f : Response}
    (hown : f.isFor id = true) (hc : f.isChallenge = true) :
    Exchange.Passes id hasCredentials before f ↔
      hasCredentials = true ∧ (Exchange.own id before).any (·.isChallenge) = false := by
  have hpartial : f.isPartial = false := by
    rcases (by simpa [Response.isChallenge] using hc : _ ∨ _) with hcode | hcode <;>
      simp [Response.isPartial, hcode]
  simp [Exchange.Passes, hown, hc, hpartial]

lemma reply_of_frame {m : Message} {f : Response} (hm : m.response? = some f) (challenged : Bool) :
    reply? config id challenged m =
      if (f.isFor id && f.isChallenge) && !challenged then
        config.credentials.map fun credentials =>
          config.dispatch (.authentication id config.processor credentials)
      else none := by
  have hc : m.challenges id = (f.isFor id && f.isChallenge) := by
    rw [Message.challenges, hm, Option.any_some]
  cases m with
  | text | binary => rw [reply?, hc]; exact nofun
  | _ => cases hm

lemma reply_of_noFrame {m : Message} {challenged : Bool} (hm : m.response? = none)
    (hping : m.pinged? = none) : reply? config id challenged m = none := by
  have hc : m.challenges id = false := by rw [Message.challenges, hm, Option.any_none]
  cases m with
  | ping => cases hping
  | _ => simp [reply?, hc]

section Frame

variable {c : Conversation} {f : Response}

lemma onFrame_of_proceed (h : (c.exchange.onFrame config.decoder f).2 = .proceed) :
    x.onFrame config c f =
      { x with
        state := (c.exchange.onFrame config.decoder f).1.state
        activity := .receiving ⟨c.request, (c.exchange.onFrame config.decoder f).1⟩ } := by
  unfold onFrame
  dsimp only
  rw [h]

lemma onFrame_of_authenticate {credentials : Credentials}
    (h : (c.exchange.onFrame config.decoder f).2 = .authenticate)
    (hc : config.credentials = some credentials) :
    x.onFrame config c f =
      { x with
        activity := .sendingAnswer ⟨c.request, (c.exchange.onFrame config.decoder f).1⟩
          (.authentication c.request.id config.processor credentials) } := by
  unfold onFrame
  dsimp only
  rw [h, hc]

lemma onFrame_isDone (h : (c.exchange.onFrame config.decoder f).2.isEnd = true) :
    (x.onFrame config c f).activity.isDone = true := by
  unfold onFrame
  dsimp only
  split
  · rename_i ht
    rw [ht] at h
    cases h
  · exact conclude_isDone _ _
  · exact conclude_isDone _ _
  · rename_i ht
    rw [ht] at h
    cases h

end Frame

/-- A frame calls for the credentials if it is the first challenge of the request and there are any,
and for nothing else. -/
lemma replying_of_frame {c : Conversation} {m : Message} {f : Response}
    (hm : m.response? = some f)
    (hc : c.request = .eval id script config.processor config.language)
    (hp : Exchange.Pending id config.credentials.isSome (ms.filterMap (·.response?)))
    (hx : Exchange.Reached id config.credentials.isSome config.decoder
      (ms.filterMap (·.response?)) c.exchange) :
    Replying config id script (ms ++ [m])
      (sends config id script ms ++
        ((x.onFrame config c f).activity.outgoing? config.messageFormat).toList)
      (x.onFrame config c f) := by
  have hreply : reply? config id (ms.any (·.challenges id)) m = _ := reply_of_frame hm _
  by_cases hf : Exchange.Passes id config.credentials.isSome (ms.filterMap (·.response?)) f
  · obtain ⟨htransition, hreached⟩ := Exchange.onFrame_of_passes hx hf
    have hpending := Exchange.Pending.concat _ f hp hf
    have hframes : (ms ++ [m]).filterMap (·.response?) = ms.filterMap (·.response?) ++ [f] := by
      rw [filterMap_concat, hm, Option.toList_some]
    rw [← hframes] at hpending hreached
    by_cases hown : f.isFor id ∧ f.isChallenge
    · rw [Exchange.reply, if_pos hown] at htransition
      obtain ⟨hsome, hfirst⟩ := (passes_challenge_iff hown.1 hown.2).1 hf
      obtain ⟨credentials, hcredentials⟩ := Option.isSome_iff_exists.1 hsome
      rw [onFrame_of_authenticate htransition hcredentials]
      refine .talking _ rfl hc hpending hreached ?_
      rw [sends_concat, hreply, ← any_challenges, hfirst, hown.1, hown.2, hcredentials, hc]
      rfl
    · rw [Exchange.reply, if_neg hown] at htransition
      rw [onFrame_of_proceed htransition]
      refine .talking _ rfl hc hpending hreached ?_
      rw [sends_concat, hreply, if_neg fun h => hown (by simpa using (Bool.and_eq_true_iff.1 h).1)]
      rfl
  · have hend := Exchange.onFrame_of_not_passes hx hf
    refine replying_of_done (onFrame_isDone (by rw [hend, Exchange.isEnd_verdict])) ?_
    rw [hreply, ← any_challenges]
    split
    · rename_i h
      simp only [Bool.and_eq_true, Bool.not_eq_true'] at h
      obtain ⟨⟨hown, hchallenge⟩, hfirst⟩ := h
      -- it is the first challenge, so it ends the exchange for want of credentials
      rw [passes_challenge_iff hown hchallenge, hfirst] at hf
      cases hcredentials : config.credentials with
      | none => rfl
      | some => exact absurd ⟨by rw [hcredentials]; rfl, rfl⟩ hf
    · rfl

/-- Whatever is received calls for the reply to the message in it, and for nothing if there is
none. -/
lemma replying_of_received {c : Conversation} (result : Except TransportError (Option Message))
    (hc : c.request = .eval id script config.processor config.language)
    (hp : Exchange.Pending id config.credentials.isSome (ms.filterMap (·.response?)))
    (hx : Exchange.Reached id config.credentials.isSome config.decoder
      (ms.filterMap (·.response?)) c.exchange) :
    Replying config id script (ms ++ (Change.read? ⟨x, .received result, y⟩).toList)
      (sends config id script ms ++
        ((x.onReceived config c result).activity.outgoing? config.messageFormat).toList)
      (x.onReceived config c result) := by
  have hnone (outcome : Outcome) : Replying config id script (ms ++ [])
      (sends config id script ms ++
        ((x.conclude outcome).activity.outgoing? config.messageFormat).toList)
      (x.conclude outcome) := by
    rw [List.append_nil, outgoing_of_done (conclude_isDone x outcome), Option.toList_none,
      List.append_nil]
    exact .done (conclude_isDone x outcome) rfl
  have hkeeps {m : Message} (hm : m.response? = none) :
      (ms ++ [m]).filterMap (·.response?) = ms.filterMap (·.response?) := by
    rw [filterMap_concat, hm, Option.toList_none, List.append_nil]
  have hpayload {m : Message} {payload : Except TransportError Response}
      (hm : m.response? = payload.toOption) (hping : m.pinged? = none) :
      Replying config id script (ms ++ [m])
        (sends config id script ms ++
          ((x.onPayload config c payload).activity.outgoing? config.messageFormat).toList)
        (x.onPayload config c payload) := by
    cases payload with
    | ok f => exact replying_of_frame hm hc hp hx
    | error e => exact replying_of_done (conclude_isDone x _) (reply_of_noFrame hm hping)
  unfold onReceived
  split
  · exact hnone _
  · exact hnone _
  · rename_i m
    cases m with
    | text text => exact hpayload rfl rfl
    | binary bytes => exact hpayload rfl rfl
    | ping payload =>
      refine .talking c rfl hc ?_ ?_ ?_
      · rwa [Change.read?, Option.toList_some, hkeeps rfl]
      · rwa [Change.read?, Option.toList_some, hkeeps rfl]
      · rw [Change.read?, Option.toList_some, sends_concat]
        rfl
    | pong payload =>
      refine .talking c rfl hc ?_ ?_ ?_
      · rwa [Change.read?, Option.toList_some, hkeeps rfl]
      · rwa [Change.read?, Option.toList_some, hkeeps rfl]
      · rw [Change.read?, Option.toList_some, sends_concat, reply_of_noFrame rfl rfl]
        rfl
    | close frame => exact replying_of_done (conclude_isDone x _) (reply_of_noFrame rfl rfl)

/-- No ping of the keepalive begins while the channel is held. -/
lemma isPinging_of_held (hx : x.activity.holdsChannel = true)
    (h : x.step? config now e = some y) (hy : y.keepalive.isPinging = true) :
    x.keepalive.isPinging = true := by
  rcases proceeds_or_directed h with hp | hd
  · cases hp with
    | opened _ _ ha | openExpired _ ha =>
      rw [ha] at hx
      cases hx
    | sendFailed => rwa [(talks_of_conclude x.state _).keepalive] at hy
    | received => rwa [(talks_of_received _).keepalive] at hy
    | keepalive _ k hke =>
      rcases hke with rfl | hke
      · obtain ⟨k', hk', -, hfree⟩ := of_tick h
        rw [hk'] at hy
        rw [(hfree hy).1] at hx
        cases hx
      · obtain ⟨k', hk', hno, -⟩ := of_pinged_or_stop hke h
        rw [hk'] at hy
        rw [show k'.isPinging = true from hy] at hno
        cases hno
    | _ => exact hy
  · cases hd <;> exact hy

lemma begun_of_held (hx : x.activity.holdsChannel = true) (h : x.step? config now e = some y) :
    (Change.mk x e y).begun config = ((Change.mk x e y).begun? config).toList := by
  rw [Change.begun, if_neg, List.append_nil]
  intro hbegins
  rw [Bool.and_eq_true, Bool.not_eq_true'] at hbegins
  rw [isPinging_of_held hx h hbegins.2] at hbegins
  cases hbegins.1

lemma Replying.held (hx : Replying config id script ms sent x)
    (ho : x.activity.outcome? = none) : x.activity.holdsChannel = true := by
  cases hx with
  | claiming ha => rw [ha]; rfl
  | talking c ha =>
    cases hc : x.activity <;> simp_all [Activity.conversation?, Activity.holdsChannel]
  | done ha =>
    cases hc : x.activity <;>
      simp_all [Activity.isDone, Activity.outcome?, Activity.holdsChannel]

lemma Replying.stage (hx : Replying config id script ms sent x) : x.activity.stage = .serving := by
  cases hx with
  | claiming ha => rw [ha]; rfl
  | talking c ha => exact Activity.stage_of_conversation ha
  | done ha => cases hc : x.activity <;> simp_all [Activity.isDone, Activity.stage]

/-- A request stands as before whose activity has the same conversation, or is the same. -/
lemma Replying.same (hx : Replying config id script ms sent x)
    (ha : y.activity = x.activity ∨ ∃ c, x.activity.conversation? = some c ∧
      y.activity.conversation? = some c) (hc : y.hasChannel = x.hasChannel) :
    Replying config id script ms sent y := by
  cases hx with
  | claiming hx hch =>
    rcases ha with ha | ⟨c, hac, -⟩
    · exact .claiming (ha.trans hx) (hc.trans hch) ‹_› ‹_›
    · rw [hx] at hac
      cases hac
  | talking c hx =>
    refine .talking c ?_ ‹_› ‹_› ‹_› ‹_›
    rcases ha with ha | ⟨c', hac, hyc⟩
    · rwa [ha]
    · rwa [← hx, hac]
  | done hx =>
    rcases ha with ha | ⟨c, hac, -⟩
    · exact .done (by rwa [ha]) ‹_›
    · cases hc' : x.activity <;> simp_all [Activity.isDone, Activity.conversation?]

lemma begun_of_free (hx : x.activity.outgoing? config.messageFormat = none) :
    (Change.mk x e y).begun? config = y.activity.outgoing? config.messageFormat := by
  rw [Change.begun?, hx]

lemma begun_of_outgoing {d : Dispatch} (hx : x.activity.outgoing? config.messageFormat = some d) :
    (Change.mk x e y).begun? config = none := by
  rw [Change.begun?, hx]

lemma outgoing_of_sending {c : Conversation} (hx : x.activity.sending? = some c)
    (format : MessageFormat) : ∃ d, x.activity.outgoing? format = some d := by
  cases ha : x.activity <;> simp_all [Activity.sending?, Activity.outgoing?]

/-- A request goes on: what begins to go out is what the message that was read calls for. -/
theorem replying_of_step (hx : Replying config id script ms sent x)
    (ho : x.activity.outcome? = none) (he : Pool.isOwnEvent e = true)
    (h : x.step? config now e = some y) :
    Replying config id script (ms ++ (Change.read? ⟨x, e, y⟩).toList)
      (sent ++ (Change.mk x e y).begun config) y := by
  rw [begun_of_held (hx.held ho) h]
  have hkeeps {z : Session} (hr : (Change.mk x e z).read? = none)
      (hb : (Change.mk x e z).begun? config = none) (hz : Replying config id script ms sent z) :
      Replying config id script (ms ++ (Change.read? ⟨x, e, z⟩).toList)
        (sent ++ ((Change.mk x e z).begun? config).toList) z := by
    rwa [hr, hb, Option.toList_none, Option.toList_none, List.append_nil, List.append_nil]
  cases proceeds_of_step he h with
  | claimRequest i s ha =>
    cases hx with
    | claiming hcl _ hm hs =>
      rw [ha] at hcl
      cases hcl
      subst hm hs
      refine .talking _ rfl rfl .nil (Exchange.reached_new _ _ _) ?_
      rw [Change.begun?, ha]
      rfl
    | talking c hac => rw [ha] at hac; cases hac
    | done hd => rw [ha] at hd; cases hd
  | claimNothing i s ha _ hno =>
    cases hx with
    | claiming _ hch => rw [hno] at hch; cases hch
    | talking c hac => rw [ha] at hac; cases hac
    | done hd => rw [ha] at hd; cases hd
  | sentRequest c ha =>
    exact hkeeps rfl (begun_of_outgoing (by rw [ha]; rfl))
      (hx.same (.inr ⟨c, by rw [ha]; rfl, rfl⟩) rfl)
  | sentPong c payload ha =>
    exact hkeeps rfl (begun_of_outgoing (by rw [ha]; rfl))
      (hx.same (.inr ⟨c, by rw [ha]; rfl, rfl⟩) rfl)
  | sentAnswer c answer ha =>
    exact hkeeps rfl (begun_of_outgoing (by rw [ha]; rfl))
      (hx.same (.inr ⟨c, by rw [ha]; rfl, rfl⟩) rfl)
  | sendFailed c e ha =>
    obtain ⟨d, hd⟩ := outgoing_of_sending ha config.messageFormat
    refine hkeeps rfl (begun_of_outgoing hd) ?_
    cases hx with
    | claiming hcl => rw [hcl] at ha; cases ha
    | talking _ _ _ _ _ hs => exact .done (conclude_isDone x _) hs
    | done _ hs => exact .done (conclude_isDone x _) hs
  | received c result ha =>
    rw [begun_of_free (by rw [ha]; rfl)]
    cases hx with
    | claiming hcl => rw [ha] at hcl; cases hcl
    | talking c' hac hc hp hx hs =>
      rw [ha] at hac
      cases hac
      rw [hs]
      exact replying_of_received result hc hp hx
    | done hd => rw [ha] at hd; cases hd
  | closedAfter e ha =>
    refine hkeeps rfl (begun_of_free (by rw [ha]; rfl)) ?_
    cases hx with
    | claiming hcl => rw [ha] at hcl; cases hcl
    | talking c hac => rw [ha] at hac; cases hac
    | done _ hs => exact .done rfl hs
  | keepalive _ k hke =>
    refine hkeeps ?_ ?_ (hx.same (.inl rfl) rfl)
    · rcases hke with rfl | rfl | rfl <;> rfl
    · cases hout : x.activity.outgoing? config.messageFormat with
      | none => rw [begun_of_free hout, hout]
      | some d => exact begun_of_outgoing hout
  | opened _ _ ha | openExpired _ ha | claimEnd ha | claimEnded ha | closedEnd ha =>
    have hheld := hx.stage
    rw [ha] at hheld
    cases hheld

lemma begun_concat (c : Change) :
    begun config (path ++ [c]) = begun config path ++ c.begun config := by
  rw [begun, begun, List.flatMap_append, List.flatMap_singleton]

lemma read_concat (c : Change) : read (path ++ [c]) = read path ++ c.read?.toList := by
  rw [read, read, filterMap_concat]

lemma gone_concat (c : Change) :
    gone config (path ++ [c]) = gone config path ++ (c.gone? config).toList := by
  rw [gone, gone, filterMap_concat]

theorem replying_of_course (h : Course config x path y)
    (hpath : ∀ c ∈ path, c.isUnderway = true)
    (hx : Replying config id script [] [] x) :
    Replying config id script (read path) (begun config path) y := by
  induction h with
  | start => exact hx
  | @step path y z now e _ hs ih =>
    obtain ⟨hown, hpending⟩ :=
      Change.isUnderway_iff.1 (hpath _ (List.mem_append_right _ List.mem_cons_self))
    rw [read_concat, begun_concat]
    exact replying_of_step (ih fun c hc => hpath c (List.mem_append_left _ hc)) hpending hown hs

lemma Course.split (h : Course config x path z) {before : List Change}
    (he : path = before ++ after) : ∃ y, Course config x before y ∧ Course config y after z := by
  induction h generalizing after with
  | start =>
    obtain ⟨rfl, rfl⟩ := List.append_eq_nil_iff.1 he.symm
    exact ⟨x, .start, .start⟩
  | @step path y z now e h hs ih =>
    rcases List.eq_nil_or_concat after with rfl | ⟨init, last, rfl⟩
    · rw [List.append_nil] at he
      exact ⟨z, he ▸ .step h hs, .start⟩
    · rw [List.concat_eq_append] at he ⊢
      rw [← List.append_assoc] at he
      obtain ⟨hinit, hlast⟩ := List.append_inj' he rfl
      cases hlast
      obtain ⟨w, hw, hrest⟩ := ih hinit
      exact ⟨w, hw, .step hrest hs⟩

lemma Course.last {c : Change} (h : Course config x (path ++ [c]) z) :
    ∃ now, c.before.step? config now c.event = some c.after ∧ c.after = z := by
  generalize hp : path ++ [c] = whole at h
  cases h with
  | start => simp at hp
  | @step _ _ _ now _ _ hs =>
    obtain ⟨-, hlast⟩ := List.append_inj' hp rfl
    cases hlast
    exact ⟨now, hs, rfl⟩

/-- A request that is done sends and reads nothing. -/
lemma mute_of_done (hx : x.activity.isDone = true) (ho : x.activity.outcome? = none)
    (he : Pool.isOwnEvent e = true) (h : x.step? config now e = some y) :
    y.activity.isDone = true ∧ (Change.mk x e y).begun config = [] ∧
      (Change.mk x e y).read? = none := by
  have hheld : x.activity.holdsChannel = true := by
    cases hc : x.activity <;>
      simp_all [Activity.isDone, Activity.outcome?, Activity.holdsChannel]
  rw [begun_of_held hheld h]
  cases proceeds_of_step he h with
  | closedAfter =>
    refine ⟨rfl, ?_, rfl⟩
    rw [begun_of_free (outgoing_of_done hx _)]
    rfl
  | keepalive _ k hke =>
    refine ⟨hx, ?_, ?_⟩
    · rw [begun_of_free (outgoing_of_done hx _), outgoing_of_done hx]
      rfl
    · rcases hke with rfl | rfl | rfl <;> rfl
  | sendFailed c _ ha => cases hc : x.activity <;> simp_all [Activity.isDone, Activity.sending?]
  | _ => simp_all [Activity.isDone]

lemma mute_of_course (h : Course config x path y) (hx : x.activity.isDone = true)
    (hpath : ∀ c ∈ path, c.isUnderway = true) :
    y.activity.isDone = true ∧ begun config path = [] ∧ read path = [] := by
  induction h with
  | start => exact ⟨hx, rfl, rfl⟩
  | step _ hs ih =>
    obtain ⟨hown, hpending⟩ :=
      Change.isUnderway_iff.1 (hpath _ (List.mem_append_right _ List.mem_cons_self))
    obtain ⟨hdone, hbegun, hread⟩ := ih fun c hc => hpath c (List.mem_append_left _ hc)
    obtain ⟨hdone', hbegun', hread'⟩ := mute_of_done hdone hpending hown hs
    rw [begun_concat, read_concat, hbegun, hbegun', hread, hread']
    exact ⟨hdone', rfl, rfl⟩

lemma isDone_of_failed (h : x.step? config now e = some y)
    (hc : (Change.mk x e y).failsToSend = true) : y.activity.isDone = true := by
  unfold Change.failsToSend at hc
  split at hc
  · rename_i failure he
    cases he
    cases proceeds_of_step rfl h with
    | sendFailed => exact conclude_isDone x _
    | keepalive _ _ hke => simp at hke
  · cases hc

/-- What begins to go out is out before anything else begins, unless it could not be sent. -/
lemma gone_of_step (hheld : x.activity.holdsChannel = true) (he : Pool.isOwnEvent e = true)
    (h : x.step? config now e = some y) (hc : (Change.mk x e y).failsToSend = false) :
    (x.activity.outgoing? config.messageFormat).toList ++ (Change.mk x e y).begun config =
      ((Change.mk x e y).gone? config).toList ++
        (y.activity.outgoing? config.messageFormat).toList := by
  rw [begun_of_held hheld h]
  cases hx : x.activity.outgoing? config.messageFormat with
  | none =>
    have hgone : (Change.mk x e y).gone? config = none := by
      unfold Change.gone?
      split
      · exact hx
      · rfl
    rw [begun_of_free hx, hgone]
  | some d =>
    rw [begun_of_outgoing hx]
    cases proceeds_of_step he h with
    | sentRequest c ha | sentPong c payload ha | sentAnswer c answer ha =>
      rw [Change.gone?, hx]
      rfl
    | sendFailed => cases hc
    | keepalive _ k hke =>
      have hgone : (Change.mk x e { x with keepalive := k }).gone? config = none := by
        rcases hke with rfl | rfl | rfl <;> rfl
      rw [hgone, hx]
      rfl
    | _ => simp_all [Activity.outgoing?]

lemma gone_of_course (h : Course config x path y) (hpath : ∀ c ∈ path, c.isUnderway = true)
    (hx : Replying config id script [] [] x)
    (hfree : x.activity.outgoing? config.messageFormat = none)
    (hout : ∀ c ∈ path, c.failsToSend = false) :
    begun config path =
      gone config path ++ (y.activity.outgoing? config.messageFormat).toList := by
  induction h with
  | start =>
    rw [hfree]
    rfl
  | @step path y z now e h hs ih =>
    have hbefore : ∀ c ∈ path, c.isUnderway = true := fun c hc =>
      hpath c (List.mem_append_left _ hc)
    obtain ⟨hown, hpending⟩ :=
      Change.isUnderway_iff.1 (hpath _ (List.mem_append_right _ List.mem_cons_self))
    have hheld := (replying_of_course h hbefore hx).held hpending
    rw [begun_concat, gone_concat, ih hbefore fun c hc => hout c (List.mem_append_left _ hc),
      List.append_assoc, List.append_assoc]
    congr 1
    exact gone_of_step hheld hown hs (hout _ (List.mem_append_right _ List.mem_cons_self))

/-- What goes out for a request and when. -/
structure Replies (config : ClientConfig) (id : Uuid) (script : String) (path : List Change)
    (y : Session) : Prop where
  /-- The request goes out first and then one reply after the other, and nothing else. -/
  sends : begun config path = sends config id script (read path) ∨
    (y.activity = .claimingRequest id script ∧ read path = [] ∧ begun config path = [])
  /-- There is a pong for each ping, with its payload and in their order. -/
  pongs : (begun config path).filterMap (·.1.ponged?) = (read path).filterMap (·.pinged?)
  /-- One challenge at most is answered, and none without credentials. -/
  answers : (begun config path).countP (·.2.any (·.isAnswer)) =
    if (read path).any (·.challenges id) then config.credentials.toList.length else 0
  requestId : ∀ d ∈ begun config path, ∀ r, d.2 = some r → r.id = id
  /-- If no send fails then everything is out, but for what is going out. -/
  gone : (∀ c ∈ path, c.failsToSend = false) →
    begun config path = gone config path ++ (y.activity.outgoing? config.messageFormat).toList
  /-- After a send that fails nothing goes out and nothing is read. -/
  silent : ∀ before c after, path = before ++ c :: after → c.failsToSend = true →
    begun config after = [] ∧ read after = []

/-- Whatever comes in for a request on a session with a channel, it sends itself and then the
replies to what it reads. -/
theorem replies_of_course (hx : x.activity = .claimingRequest id script)
    (hc : x.hasChannel = true) (h : Course config x path y)
    (hpath : ∀ c ∈ path, c.isUnderway = true) : Replies config id script path y := by
  have hstart : Replying config id script [] [] x := .claiming hx hc rfl rfl
  have hsends : begun config path = Session.sends config id script (read path) ∨
      (y.activity = .claimingRequest id script ∧ read path = [] ∧ begun config path = []) := by
    cases replying_of_course h hpath hstart with
    | claiming ha _ hm hs => exact .inr ⟨ha, hm, hs⟩
    | talking _ _ _ _ _ hs => exact .inl hs
    | done _ hs => exact .inl hs
  refine ⟨hsends, ?_, ?_, ?_, ?_, ?_⟩
  · rcases hsends with hs | ⟨-, hm, hs⟩
    · rw [hs, ponged_sends]
    · rw [hs, hm]
      rfl
  · rcases hsends with hs | ⟨-, hm, hs⟩
    · rw [hs, answers_of_sends]
    · rw [hs, hm]
      rfl
  · intro d hd r hr
    rcases hsends with hs | ⟨-, -, hs⟩
    · exact id_of_sends (hs ▸ hd) hr
    · rw [hs] at hd
      cases hd
  · exact gone_of_course h hpath hstart (by rw [hx]; rfl)
  · intro before c after hsplit hfails
    obtain ⟨z, hz, hrest⟩ := h.split (hsplit.trans (List.append_cons before c after))
    obtain ⟨now, hs, rfl⟩ := hz.last
    refine (mute_of_course hrest (isDone_of_failed hs hfails) fun c' hc' => hpath c' ?_).2
    rw [hsplit]
    exact List.mem_append_right _ (List.mem_cons_of_mem _ hc')

def knownUser : ClientConfig := { credentials := some ⟨"user", "pass"⟩ }

/-- A session with a channel whose user makes a request. -/
def askingSession : Session :=
  { freshSession.started knownUser (.ofMillis 0) true with
    activity := .claimingRequest ⟨1⟩ "g.V()" }

/-- A ping, a challenge of the request and one of another request. -/
def challengedRun : List (Instant × Event) :=
  [.claim, .sent none, .received (.ok (some (.ping ⟨#[7]⟩))), .sent none, frameOf ⟨1⟩ 407 "",
    .sent none, frameOf ⟨2⟩ 407 "", frameOf ⟨1⟩ 200 "a"].map (.ofMillis 0, ·)

lemma challengedRun_evaluated :
    (askingSession.run? knownUser challengedRun).any (fun y => y.activity.outcome?.isSome) = true ∧
      (askingSession.changes knownUser challengedRun).all Change.isUnderway = true ∧
      (begun knownUser (askingSession.changes knownUser challengedRun)).map
        (fun d => (d.1.name, d.2.map (·.isAnswer))) =
        [("TEXT", some false), ("PONG", none), ("TEXT", some true)] := by
  decide +kernel

theorem replies_of_challengedRun :
    askingSession.activity = .claimingRequest ⟨1⟩ "g.V()" ∧ askingSession.hasChannel = true ∧
    (∀ c ∈ askingSession.changes knownUser challengedRun, c.isUnderway = true) ∧
    ∃ y, askingSession.run? knownUser challengedRun = some y ∧
      (begun knownUser (askingSession.changes knownUser challengedRun)).map
        (fun d => (d.1.name, d.2.map (·.isAnswer))) =
        [("TEXT", some false), ("PONG", none), ("TEXT", some true)] ∧
      Replies knownUser ⟨1⟩ "g.V()" (askingSession.changes knownUser challengedRun) y := by
  obtain ⟨hrun, hunderway, hbegun⟩ := challengedRun_evaluated
  obtain ⟨y, hy, -⟩ := (Option.any_eq_true _ _).1 hrun
  have hpath : ∀ c ∈ askingSession.changes knownUser challengedRun, c.isUnderway = true :=
    fun c hc => List.all_eq_true.1 hunderway c hc
  exact ⟨rfl, rfl, hpath, y, hy, hbegun, replies_of_course rfl rfl (course_of_run hy) hpath⟩

end Session

end GraphClient
