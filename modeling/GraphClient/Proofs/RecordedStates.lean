import GraphClient.Proofs.Replies

/-!
# The state that a request records

A session shows how far its request is: that it is being sent, that a frame is awaited, or that
partial results add up. Its exchange keeps a state of its own, which the session takes over with each
frame that it passes over. An exchange that was challenged shows that it sends until a partial result
comes; so a frame of another request makes the session show that too, though its answer has long been
sent.
-/

namespace GraphClient

namespace Exchange

/-- The state of the exchange of a request that some frames have not ended. -/
def shown (id : Uuid) (frames : List Response) : SessionState :=
  match (own id frames).getLast? with
  | none => .awaitingFrame
  | some f => if f.isChallenge then .sending else .accumulating

/-- The state that a session records while it waits for the frame after some: that of the exchange,
unless it has just answered a challenge. -/
def recorded (id : Uuid) (frames : List Response) : SessionState :=
  if frames.getLast?.any fun f => f.isFor id && f.isChallenge then .awaitingFrame
  else shown id frames

/-- The last frame is of another request, and the last one of the request is a challenge. -/
def strayed (id : Uuid) (frames : List Response) : Bool :=
  (frames.getLast?.any fun f => !f.isFor id) && (own id frames).getLast?.any (·.isChallenge)

variable {id : Uuid} {hasCredentials : Bool} {decoder : GraphSON.Decoder}
variable {x : Exchange} {before frames : List Response} {f : Response}

lemma shown_concat :
    shown id (before ++ [f]) =
      if f.isFor id then if f.isChallenge then .sending else .accumulating else shown id before := by
  rw [shown, own_concat]
  cases f.isFor id with
  | false => rw [if_neg nofun, List.append_nil, if_neg nofun, shown]
  | true => rw [if_pos rfl, List.getLast?_concat, if_pos rfl]

lemma recorded_concat :
    recorded id (before ++ [f]) =
      if f.isFor id && f.isChallenge then .awaitingFrame else shown id (before ++ [f]) := by
  rw [recorded, List.getLast?_concat, Option.any_some]

lemma shown_eq_sending_iff :
    shown id frames = .sending ↔ (own id frames).getLast?.any (·.isChallenge) = true := by
  unfold shown
  cases (own id frames).getLast? with
  | none => simp
  | some f => cases hf : f.isChallenge <;> simp [hf]

lemma strayed_concat :
    strayed id (before ++ [f]) = true ↔
      f.isFor id = false ∧ shown id (before ++ [f]) = .sending := by
  rw [strayed, List.getLast?_concat, Option.any_some, Bool.and_eq_true, Bool.not_eq_true',
    shown_eq_sending_iff]

/-- A session that waits shows that it sends exactly if a stray frame has come after a challenge. -/
lemma recorded_eq_sending_iff : recorded id frames = .sending ↔ strayed id frames = true := by
  rcases List.eq_nil_or_concat frames with rfl | ⟨before, f, rfl⟩
  · simp [recorded, shown, strayed, own]
  · rw [List.concat_eq_append, recorded_concat, strayed_concat, shown_concat]
    cases f.isFor id <;> cases f.isChallenge <;> simp

lemma recorded_of_not_strayed (h : strayed id frames = false) :
    recorded id frames = .awaitingFrame ∨ recorded id frames = .accumulating := by
  have hno : recorded id frames ≠ .sending := by
    rw [Ne, recorded_eq_sending_iff, h]
    nofun
  revert hno
  unfold recorded shown
  split
  · exact fun _ => .inl rfl
  · split
    · exact fun _ => .inl rfl
    · split
      · exact fun hno => absurd rfl hno
      · exact fun _ => .inr rfl

lemma not_strayed_of_unchallenged (h : (own id frames).any (·.isChallenge) = false) :
    strayed id frames = false := by
  rw [strayed, Bool.and_eq_false_iff]
  right
  cases hlast : (own id frames).getLast? with
  | none => rfl
  | some f =>
    rw [Option.any_some]
    simpa using List.any_eq_false.1 h f (List.mem_of_getLast? hlast)

/-- How an exchange shows that it goes on after a frame of its own. -/
lemma state_onFrame (hown : f.isFor x.requestId = true) :
    ((x.onFrame decoder f).2 = .authenticate → (x.onFrame decoder f).1.state = .sending) ∧
      ((x.onFrame decoder f).2 = .proceed → (x.onFrame decoder f).1.state = .accumulating) := by
  have hchallenge : ((x.onChallenge f).2 = .authenticate → (x.onChallenge f).1.state = .sending) ∧
      ((x.onChallenge f).2 = .proceed → (x.onChallenge f).1.state = .accumulating) := by
    unfold onChallenge
    split
    · exact ⟨nofun, nofun⟩
    · split
      · exact ⟨nofun, nofun⟩
      · exact ⟨fun _ => rfl, nofun⟩
  unfold onFrame
  rw [if_neg (by rw [isForeign_eq, hown]; nofun)]
  split
  · exact ⟨nofun, nofun⟩
  · split
    · exact hchallenge
    · exact hchallenge
    · exact ⟨nofun, nofun⟩
    · exact ⟨nofun, nofun⟩
    · exact ⟨nofun, fun _ => rfl⟩
    · split <;> exact ⟨nofun, nofun⟩

/-- An exchange shows the last frame of its request. -/
lemma state_of_passes (hx : Reached id hasCredentials decoder before x)
    (hf : Passes id hasCredentials before f) (hs : x.state = shown id before) :
    (x.onFrame decoder f).1.state = shown id (before ++ [f]) := by
  have hreply := (onFrame_of_passes hx hf).1
  rw [shown_concat]
  cases hown : f.isFor id with
  | false =>
    rw [onFrame_of_foreign decoder (by rw [hx.requestId, hown]), if_neg nofun]
    exact hs
  | true =>
    rw [if_pos rfl]
    cases hc : f.isChallenge with
    | false =>
      rw [reply, if_neg (by simp [hc])] at hreply
      rw [if_neg nofun]
      exact (state_onFrame (by rw [hx.requestId, hown])).2 hreply
    | true =>
      rw [reply, if_pos ⟨hown, hc⟩] at hreply
      rw [if_pos rfl]
      exact (state_onFrame (by rw [hx.requestId, hown])).1 hreply

end Exchange

namespace Activity

/-- The request waits for a frame, or sends a pong and then waits on. -/
def awaitsFrame : Activity → Bool
  | receiving _ | sendingPong _ _ => true
  | _ => false

end Activity

namespace Session

/-- The frames that are read on a course. -/
def frames (path : List Change) : List Response := (read path).filterMap (·.response?)

/-- How a session and its exchange show how far a request is that has read some frames. -/
structure Shows (id : Uuid) (frames : List Response) (x : Session) : Prop where
  exchange : ∀ c, x.activity.conversation? = some c → c.exchange.state = Exchange.shown id frames
  sends : ∀ c, x.activity = .sendingRequest c → frames = [] ∧ x.state = .sending
  waits : x.activity.awaitsFrame = true → x.state = Exchange.recorded id frames
  answers : ∀ c answer, x.activity = .sendingAnswer c answer →
    Exchange.recorded id frames = .awaitingFrame ∧
      (x.state = .awaitingFrame ∨ x.state = .accumulating)

variable {config : ClientConfig} {now : Instant} {id : Uuid} {script : String} {x y : Session}
variable {e : Event} {path : List Change} {ms : List Message} {sent : List Dispatch}
variable {seen : List Response} {c : Conversation} {f : Response}

lemma shows_of_none (h : y.activity.conversation? = none) : y.Shows id seen := by
  refine ⟨fun c hc => ?_, fun c hc => ?_, fun hc => ?_, fun c answer hc => ?_⟩
  · rw [h] at hc
    cases hc
  · rw [hc] at h
    cases h
  · cases ha : y.activity with
    | receiving | sendingPong => simp [ha, Activity.conversation?] at h
    | _ => simp [ha, Activity.awaitsFrame] at hc
  · rw [hc] at h
    cases h

lemma shows_of_waiting (ha : y.activity.awaitsFrame = true)
    (hy : y.activity.conversation? = some c) (hc : c.exchange.state = Exchange.shown id seen)
    (hs : y.state = Exchange.recorded id seen) : y.Shows id seen := by
  refine ⟨fun d hd => ?_, fun d hd => ?_, fun _ => hs, fun d answer hd => ?_⟩
  · rw [hy] at hd
    cases hd
    exact hc
  · rw [hd] at ha
    cases ha
  · rw [hd] at ha
    cases ha

lemma conversation_of_done {a : Activity} (h : a.isDone = true) : a.conversation? = none := by
  cases a <;> first | rfl | cases h

/-- A frame that the exchange passes over makes the session show the state of the exchange; a
challenge that is answered leaves the session as it was. -/
lemma shows_of_frame
    (hx : Exchange.Reached id config.credentials.isSome config.decoder seen c.exchange)
    (hs : x.state = Exchange.recorded id seen) (hc : c.exchange.state = Exchange.shown id seen) :
    (x.onFrame config c f).Shows id (seen ++ [f]) := by
  by_cases hf : Exchange.Passes id config.credentials.isSome seen f
  · have htransition := (Exchange.onFrame_of_passes hx hf).1
    have hstate := Exchange.state_of_passes hx hf hc
    by_cases hown : f.isFor id ∧ f.isChallenge
    · rw [Exchange.reply, if_pos hown] at htransition
      obtain ⟨hsome, hfirst⟩ := (passes_challenge_iff hown.1 hown.2).1 hf
      obtain ⟨credentials, hcredentials⟩ := Option.isSome_iff_exists.1 hsome
      rw [onFrame_of_authenticate htransition hcredentials]
      refine ⟨fun d hd => ?_, fun d hd => ?_, fun hd => ?_, fun d answer hd => ⟨?_, ?_⟩⟩
      · cases hd
        exact hstate
      · cases hd
      · cases hd
      · rw [Exchange.recorded_concat, hown.1, hown.2]
        rfl
      · rw [hs]
        exact Exchange.recorded_of_not_strayed (Exchange.not_strayed_of_unchallenged hfirst)
    · rw [Exchange.reply, if_neg hown] at htransition
      rw [onFrame_of_proceed htransition]
      refine shows_of_waiting rfl rfl hstate ?_
      rw [Exchange.recorded_concat, if_neg (by simpa using hown)]
      exact hstate
  · have hend := Exchange.onFrame_of_not_passes hx hf
    exact shows_of_none (conversation_of_done (onFrame_isDone (by rw [hend, Exchange.isEnd_verdict])))

lemma shows_of_received (result : Except TransportError (Option Message))
    (ha : x.activity = .receiving c)
    (hx : Exchange.Reached id config.credentials.isSome config.decoder
      (ms.filterMap (·.response?)) c.exchange)
    (hs : x.Shows id (ms.filterMap (·.response?))) :
    (x.onReceived config c result).Shows id
      ((ms ++ (Change.read? ⟨x, .received result, y⟩).toList).filterMap (·.response?)) := by
  have hexchange := hs.exchange c (by rw [ha]; rfl)
  have hstate := hs.waits (by rw [ha]; rfl)
  have hpayload {m : Message} {payload : Except TransportError Response}
      (hm : m.response? = payload.toOption) :
      (x.onPayload config c payload).Shows id ((ms ++ [m]).filterMap (·.response?)) := by
    rw [filterMap_concat, hm]
    cases payload with
    | ok f => exact shows_of_frame hx hstate hexchange
    | error e => exact shows_of_none (conversation_of_done (conclude_isDone x _))
  have hkeeps {m : Message} (hm : m.response? = none) :
      (ms ++ [m]).filterMap (·.response?) = ms.filterMap (·.response?) := by
    rw [filterMap_concat, hm, Option.toList_none, List.append_nil]
  unfold onReceived
  split
  · exact shows_of_none (conversation_of_done (conclude_isDone x _))
  · exact shows_of_none (conversation_of_done (conclude_isDone x _))
  · rename_i m
    rw [Change.read?, Option.toList_some]
    cases m with
    | text text => exact hpayload rfl
    | binary bytes => exact hpayload rfl
    | ping payload =>
      rw [hkeeps rfl]
      exact shows_of_waiting rfl rfl hexchange hstate
    | pong payload =>
      rw [hkeeps rfl]
      exact shows_of_waiting rfl rfl hexchange hstate
    | close frame => exact shows_of_none (conversation_of_done (conclude_isDone x _))

theorem shows_of_step (hr : Replying config id script ms sent x)
    (hs : x.Shows id (ms.filterMap (·.response?))) (he : Pool.isOwnEvent e = true)
    (h : x.step? config now e = some y) :
    y.Shows id ((ms ++ (Change.read? ⟨x, e, y⟩).toList).filterMap (·.response?)) := by
  have hkeeps {z : Session} (hread : (Change.mk x e z).read? = none)
      (hz : z.Shows id (ms.filterMap (·.response?))) :
      z.Shows id ((ms ++ (Change.read? ⟨x, e, z⟩).toList).filterMap (·.response?)) := by
    rwa [hread, Option.toList_none, List.append_nil]
  cases proceeds_of_step he h with
  | claimRequest i s ha =>
    cases hr with
    | claiming _ _ hm =>
      subst hm
      refine ⟨fun d hd => ?_, fun _ _ => ⟨rfl, rfl⟩, nofun, nofun⟩
      cases hd
      rfl
    | talking c hac => rw [ha] at hac; cases hac
    | done hd => rw [ha] at hd; cases hd
  | sentRequest c ha =>
    refine hkeeps rfl (shows_of_waiting rfl rfl (hs.exchange c (by rw [ha]; rfl)) ?_)
    change c.exchange.state = _
    rw [hs.exchange c (by rw [ha]; rfl), (hs.sends c ha).1]
    rfl
  | sentPong c payload ha =>
    exact hkeeps rfl (shows_of_waiting rfl rfl (hs.exchange c (by rw [ha]; rfl))
      (hs.waits (by rw [ha]; rfl)))
  | sentAnswer c answer ha =>
    exact hkeeps rfl (shows_of_waiting rfl rfl (hs.exchange c (by rw [ha]; rfl))
      (hs.answers c answer ha).1.symm)
  | received c result ha =>
    cases hr with
    | claiming hcl => rw [ha] at hcl; cases hcl
    | talking c' hac _ _ hx =>
      rw [ha] at hac
      cases hac
      exact shows_of_received result ha hx hs
    | done hd => rw [ha] at hd; cases hd
  | keepalive _ k hke =>
    refine hkeeps ?_ ⟨hs.exchange, hs.sends, hs.waits, hs.answers⟩
    rcases hke with rfl | rfl | rfl <;> rfl
  | sendFailed => exact hkeeps rfl (shows_of_none (conversation_of_done (conclude_isDone x _)))
  | opened | openExpired | claimNothing | claimEnd | claimEnded | closedAfter | closedEnd =>
    exact hkeeps rfl (shows_of_none rfl)

theorem shows_of_course (h : Course config x path y) (hpath : ∀ c ∈ path, c.isUnderway = true)
    (hx : x.activity = .claimingRequest id script) (hc : x.hasChannel = true) :
    y.Shows id (frames path) := by
  induction h with
  | start => exact shows_of_none (by rw [hx]; rfl)
  | @step path y z now e hy hs ih =>
    have hbefore : ∀ c ∈ path, c.isUnderway = true := fun c hc =>
      hpath c (List.mem_append_left _ hc)
    have hown := (Change.isUnderway_iff.1 (hpath _ (List.mem_append_right _ List.mem_cons_self))).1
    rw [frames, read_concat]
    exact shows_of_step (replying_of_course hy hbefore (.claiming hx hc rfl rfl)) (ih hbefore) hown
      hs

/-- What a session records of a request that is underway, by the frames that it has read. -/
structure Records (id : Uuid) (path : List Change) (y : Session) : Prop where
  /-- While it waits for a frame it is in the state of the last frame of the request, and back at the
  wait once a challenge is answered. -/
  waits : y.activity.awaitsFrame = true → y.state = Exchange.recorded id (frames path)
  /-- That is a wait, but after a stray frame. -/
  settled : y.activity.awaitsFrame = true → Exchange.strayed id (frames path) = false →
    y.state = .awaitingFrame ∨ y.state = .accumulating
  /-- It shows that it sends while the request goes out, and then only after a stray frame. -/
  sending : ∀ c, y.activity.conversation? = some c →
    (y.state = .sending ↔ y.activity = .sendingRequest c ∨
      (y.activity.awaitsFrame = true ∧ Exchange.strayed id (frames path) = true))
  /-- While its answer to a challenge goes out it shows the wait before. -/
  answers : ∀ c answer, y.activity = .sendingAnswer c answer →
    y.state = .awaitingFrame ∨ y.state = .accumulating

/-- Whatever comes in for a request on a session with a channel: while it waits for a frame, the
session records that it waits or that results add up. Only once a frame of another request has come
after a challenge of its own, and until the next frame of its own, it records that it sends. -/
theorem records_of_course (hx : x.activity = .claimingRequest id script)
    (hc : x.hasChannel = true) (h : Course config x path y)
    (hpath : ∀ c ∈ path, c.isUnderway = true) : Records id path y := by
  have hs := shows_of_course h hpath hx hc
  refine ⟨hs.waits, fun ha hstray => ?_, fun c hconv => ?_, fun c answer ha =>
    (hs.answers c answer ha).2⟩
  · rw [hs.waits ha]
    exact Exchange.recorded_of_not_strayed hstray
  · cases ha : y.activity with
    | sendingRequest d =>
      rw [ha] at hconv
      cases hconv
      exact ⟨fun _ => .inl rfl, fun _ => (hs.sends c ha).2⟩
    | receiving | sendingPong =>
      rw [hs.waits (by rw [ha]; rfl), Exchange.recorded_eq_sending_iff]
      simp [Activity.awaitsFrame]
    | sendingAnswer d answer =>
      rcases (hs.answers d answer ha).2 with hstate | hstate <;>
        simp [hstate, Activity.awaitsFrame]
    | _ =>
      rw [ha] at hconv
      cases hconv

/-- A challenge that is answered, and a frame of another request. -/
def strayRun : List (Instant × Event) :=
  [.claim, .sent none, frameOf ⟨1⟩ 407 "", .sent none, frameOf ⟨2⟩ 200 "a"].map (.ofMillis 0, ·)

lemma strayRun_evaluated :
    (askingSession.run? knownUser strayRun).any
        (fun y => y.activity.awaitsFrame ∧ y.state = .sending) = true ∧
      (askingSession.changes knownUser strayRun).all Change.isUnderway = true := by
  decide +kernel

theorem records_of_strayRun :
    askingSession.activity = .claimingRequest ⟨1⟩ "g.V()" ∧ askingSession.hasChannel = true ∧
    (∀ c ∈ askingSession.changes knownUser strayRun, c.isUnderway = true) ∧
    ∃ y, askingSession.run? knownUser strayRun = some y ∧ y.activity.awaitsFrame = true ∧
      y.state = .sending ∧ Records ⟨1⟩ (askingSession.changes knownUser strayRun) y := by
  obtain ⟨hrun, hunderway⟩ := strayRun_evaluated
  obtain ⟨y, hy, hstate⟩ := (Option.any_eq_true _ _).1 hrun
  obtain ⟨hwaits, hsending⟩ := of_decide_eq_true hstate
  have hpath : ∀ c ∈ askingSession.changes knownUser strayRun, c.isUnderway = true :=
    fun c hc => List.all_eq_true.1 hunderway c hc
  exact ⟨rfl, rfl, hpath, y, hy, hwaits, hsending,
    records_of_course rfl rfl (course_of_run hy) hpath⟩

end Session

end GraphClient
