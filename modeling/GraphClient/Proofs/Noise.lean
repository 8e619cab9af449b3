import GraphClient.Proofs.Transcripts

/-!
# Noise on a channel

Pings, pongs and the frames of other requests say nothing about the request that reads them. A run
without them brings the same outcomes and leaves the same session, wherever in the run they stood.
-/

namespace GraphClient

/-- The message says nothing about a request: it is a ping, a pong, or a frame of another. -/
def Message.isNoiseFor (m : Message) (id : Uuid) : Bool :=
  match m with
  | .ping _ | .pong _ => true
  | m => m.response?.any (!·.isFor id)

namespace Activity

/-- A request is out or its channel is being closed. -/
def isOut : Activity → Bool
  | sendingRequest _ | receiving _ | sendingPong _ _ | sendingAnswer _ _ | closingAfter _ => true
  | _ => false

/-- What the user waits for if it has not seen the pings to some requests. -/
def listening (who : Uuid → Bool) : Activity → Activity
  | sendingPong c payload => if who c.exchange.requestId then receiving c else sendingPong c payload
  | a => a

variable {who : Uuid → Bool} {a : Activity}

lemma holdsChannel_listening : (a.listening who).holdsChannel = a.holdsChannel := by
  cases a <;> simp only [listening]
  split <;> rfl

lemma outcome_listening : (a.listening who).outcome? = a.outcome? := by
  cases a <;> simp only [listening]
  split <;> rfl

lemma listening_of_not_sendingPong (h : ∀ c payload, a ≠ .sendingPong c payload) :
    a.listening who = a := by
  cases a with
  | sendingPong c payload => exact absurd rfl (h c payload)
  | _ => rfl

lemma stage_of_isOut (h : a.isOut = true) : a.stage = .serving := by
  cases a <;> simp_all [isOut, stage]

end Activity

namespace Session

/-- The event is noise to one of some requests: a message that says nothing about it, or the answer
to a ping. -/
def isNoise (who : Uuid → Bool) (x : Session) (e : Event) : Bool :=
  match x.activity, e with
  | .receiving c, .received (.ok (some m)) =>
    who c.exchange.requestId && m.isNoiseFor c.exchange.requestId
  | .sendingPong c _, .sent none => who c.exchange.requestId
  | _, _ => false

/-- A run without what is noise to some requests. -/
def quieten (config : ClientConfig) (who : Uuid → Bool) (x : Session) :
    List (Instant × Event) → List (Instant × Event)
  | [] => []
  | (now, e) :: events =>
    match x.step? config now e with
    | none => (now, e) :: events
    | some y =>
      if x.isNoise who e then y.quieten config who events
      else (now, e) :: y.quieten config who events

/-- The second session is as the first would be without the noise: it has not seen the pings, and
only while a request is out its state may be another. -/
structure Matches (who : Uuid → Bool) (x x' : Session) : Prop where
  same : x' = { x with state := x'.state, activity := x.activity.listening who }
  state : x.activity.isOut = false → x'.state = x.state

variable {config : ClientConfig} {who : Uuid → Bool} {now : Instant} {x x' y : Session} {e : Event}
variable {c : Conversation} {s : SessionState}

lemma matches_self (h : ∀ c payload, x.activity ≠ .sendingPong c payload) : Matches who x x where
  same := by rw [Activity.listening_of_not_sendingPong h]
  state _ := rfl

lemma Matches.eq (h : Matches who x x') (hx : x.activity.isOut = false) : x' = x := by
  have hl : x.activity.listening who = x.activity :=
    Activity.listening_of_not_sendingPong fun c payload hc => by simp [hc, Activity.isOut] at hx
  rw [h.same, h.state hx, hl]

lemma Matches.eq_of_listening (h : Matches who x x')
    (hl : x.activity.listening who = x.activity) : x' = { x with state := x'.state } := by
  conv_lhs => rw [h.same, hl]

/-- The end of a request does not depend on the state before. -/
lemma matches_of_conclude (outcome : Outcome) :
    Matches who (x.conclude outcome) ({ x with state := s }.conclude outcome) := by
  unfold conclude
  split
  · split
    · exact ⟨rfl, fun h => by cases h⟩
    · exact ⟨rfl, fun _ => rfl⟩
  · exact ⟨rfl, fun _ => rfl⟩

lemma matches_of_frame (f : Response) :
    Matches who (x.onFrame config c f) ({ x with state := s }.onFrame config c f) := by
  unfold onFrame
  dsimp only
  split
  · exact ⟨rfl, fun _ => rfl⟩
  · exact matches_of_conclude _
  · exact matches_of_conclude _
  · split
    · exact matches_of_conclude _
    · exact ⟨rfl, fun h => by cases h⟩

lemma matches_of_payload (payload : Except TransportError Response) :
    Matches who (x.onPayload config c payload)
      ({ x with state := s }.onPayload config c payload) := by
  unfold onPayload
  split
  · exact matches_of_frame _
  · exact matches_of_conclude _

/-- Whatever is received, unless it is noise, is met alike. -/
lemma matches_of_received {result : Except TransportError (Option Message)}
    (hx : x.activity = .receiving c) (hn : x.isNoise who (.received result) = false) :
    Matches who (x.onReceived config c result)
      ({ x with state := s }.onReceived config c result) := by
  unfold onReceived
  split
  · exact matches_of_conclude _
  · exact matches_of_conclude _
  · rename_i m
    unfold onMessage
    split
    · exact matches_of_payload _
    · exact matches_of_payload _
    · rename_i payload
      have hw : who c.exchange.requestId = false := by
        simpa [isNoise, hx, Message.isNoiseFor] using hn
      exact ⟨by simp [Activity.listening, hw], fun h => by cases h⟩
    · exact ⟨rfl, fun h => by cases h⟩
    · exact matches_of_conclude _

lemma matches_of_noise {m : Message} (hx : x.activity = .receiving c)
    (hn : x.isNoise who (.received (.ok (some m))) = true) :
    Matches who (x.onMessage config c m) { x with state := s } := by
  obtain ⟨hw, hn⟩ : who c.exchange.requestId = true ∧
      m.isNoiseFor c.exchange.requestId = true := by
    simpa [isNoise, hx] using hn
  have hframe {f : Response} (hf : f.isFor c.exchange.requestId = false) :
      Matches who (x.onFrame config c f) { x with state := s } := by
    unfold onFrame
    rw [Exchange.onFrame_of_foreign _ hf]
    exact ⟨by simp [hx, Activity.listening], fun h => by cases h⟩
  have hpayload {payload : Except TransportError Response}
      (hp : payload.toOption.any (!·.isFor c.exchange.requestId) = true) :
      Matches who (x.onPayload config c payload) { x with state := s } := by
    cases payload with
    | ok f => exact hframe (by simpa [Except.toOption] using hp)
    | error => cases hp
  cases m with
  | text payload => exact hpayload hn
  | binary payload => exact hpayload hn
  | ping payload => exact ⟨by simp [onMessage, hx, Activity.listening, hw], fun h => by cases h⟩
  | pong payload => exact ⟨by simp [onMessage, hx, Activity.listening], fun h => by cases h⟩
  | close => cases hn

/-- The keepalive sees only whether the channel is in use. -/
lemma step_of_keepalive {a : Activity} (hk : e = .tick ∨ e = .pinged ∨ e = .stop)
    (h : x.step? config now e = some y) (ha : a.holdsChannel = x.activity.holdsChannel) :
    ∃ k, y = { x with keepalive := k } ∧
      { x with state := s, activity := a }.step? config now e =
        some { x with state := s, activity := a, keepalive := k } := by
  rcases hk with rfl | rfl | rfl
  · simp only [step?, tick?] at h ⊢
    split at h
    · rw [ha]
      split at h
      · rename_i hdue
        split at h
        · rename_i hheld
          cases h
          exact ⟨_, rfl, by simp [hdue, hheld]⟩
        · rename_i hfree
          split at h <;> rename_i hc <;> cases h <;> exact ⟨_, rfl, by simp [hdue, hfree, hc]⟩
      · cases h
    · cases h
  · simp only [step?] at h ⊢
    split at h <;> cases h
    exact ⟨_, rfl, rfl⟩
  · simp only [step?] at h ⊢
    split at h
    · split at h <;> cases h
      rename_i hstop
      exact ⟨_, rfl, if_pos hstop⟩
    · cases h

lemma step_of_received {result : Except TransportError (Option Message)}
    (hx : x.activity = .receiving c) :
    x.step? config now (.received result) = some (x.onReceived config c result) := by
  simp only [step?, hx]

/-- A step of noise brings the first session back to the second. -/
lemma matches_of_isNoise (hm : Matches who x x') (h : x.step? config now e = some y)
    (hn : x.isNoise who e = true) : Matches who y x' := by
  have hn' := hn
  unfold isNoise at hn'
  split at hn'
  · rename_i c m hx
    simp only [step?, hx] at h
    cases h
    rw [hm.eq_of_listening (by rw [hx]; rfl)]
    exact matches_of_noise hx hn
  · rename_i c payload hx
    simp only [step?, sent?, hx] at h
    cases h
    rw [hm.same]
    exact ⟨by simp [hx, Activity.listening, hn'], fun h => by cases h⟩
  · cases hn'

/-- Only a session that reads messages sends a pong. -/
lemma not_sendingPong_of_step (hx : x.activity.isOut = false) (h : x.step? config now e = some y) :
    ∀ c payload, y.activity ≠ .sendingPong c payload := by
  intro c payload hy
  cases he : Pool.isOwnEvent e with
  | true =>
    cases proceeds_of_step he h with
    | sendFailed c _ hs => cases ha : x.activity <;> simp_all [Activity.isOut, Activity.sending?]
    | keepalive => simp [show x.activity = _ from hy, Activity.isOut] at hx
    | received _ _ ha => simp [ha, Activity.isOut] at hx
    | _ => cases hy
  | false => cases directed_of_step he h <;> cases hy

/-- A step that is no noise is a step of both sessions. -/
lemma matches_of_step (hm : Matches who x x') (h : x.step? config now e = some y)
    (he : e.isSmooth = true) (hn : x.isNoise who e = false) :
    ∃ y', x'.step? config now e = some y' ∧ Matches who y y' := by
  -- while no request is out the two sessions are one
  by_cases hx : x.activity.isOut = true
  · obtain ⟨-, hp⟩ | ⟨rfl, -⟩ := step_of_serving (Activity.stage_of_isOut hx) he h
    · cases hp with
      | sentRequest c ha =>
        rw [hm.eq_of_listening (by rw [ha]; rfl)]
        exact ⟨{ x with state := c.exchange.state, activity := .receiving c },
          by simp only [step?, sent?, ha], rfl, fun h => by cases h⟩
      | sentPong c payload ha =>
        have hw : who c.exchange.requestId = false := by simpa [isNoise, ha] using hn
        rw [hm.eq_of_listening (by simp [ha, Activity.listening, hw])]
        exact ⟨{ x with state := x'.state, activity := .receiving c },
          by simp only [step?, sent?, ha], rfl, fun h => by cases h⟩
      | sentAnswer c answer ha =>
        rw [hm.eq_of_listening (by rw [ha]; rfl)]
        exact ⟨{ x with state := .awaitingFrame, activity := .receiving c },
          by simp only [step?, sent?, ha], rfl, fun h => by cases h⟩
      | received c result ha =>
        rw [hm.eq_of_listening (by rw [ha]; rfl)]
        exact ⟨_, step_of_received ha, matches_of_received ha hn⟩
      | closedAfter e ha =>
        rw [hm.eq_of_listening (by rw [ha]; rfl)]
        refine ⟨_, ?_, rfl, fun _ => rfl⟩
        simp only [step?, closed?, ha]
      | keepalive _ k hk =>
        obtain ⟨k', hy, hstep⟩ :=
          step_of_keepalive (s := x'.state) (a := x.activity.listening who) hk h
            Activity.holdsChannel_listening
        rw [hm.same, hstep, hy]
        exact ⟨_, rfl, rfl, fun hout => absurd hx (by simpa using hout)⟩
      | sendFailed => cases he
      | _ => simp_all [Activity.isOut]
    · unfold step? at h
      dsimp only at h
      split at h <;> rename_i ha <;> simp [ha, Activity.isOut] at hx
      cases h
  · rw [hm.eq (by simpa using hx)]
    exact ⟨y, h, matches_self (not_sendingPong_of_step (by simpa using hx) h)⟩

end Session

namespace Transcript

/-- A transcript without the frames that some requests read and that name another. -/
def without (who : Uuid → Bool) (t : Transcript) : Transcript :=
  { t with heard := t.heard.filter fun r => !who r.1 || r.2.isFor r.1 }

end Transcript

namespace Session

variable {config : ClientConfig} {who : Uuid → Bool} {now : Instant}
variable {x x' y y' : Session} {e : Event} {t : Transcript} {events : List (Instant × Event)}

lemma Matches.outcome (h : Matches who x x') : x'.activity.outcome? = x.activity.outcome? := by
  rw [h.same]
  exact Activity.outcome_listening

lemma Matches.heard (h : Matches who x x') (hs : x.step? config now e = some y) :
    x'.heard? e = x.heard? e := by
  cases hx : x.activity with
  | sendingPong c payload =>
    have hframe : e.frame? = none := by
      cases e with
      | received result => simp [step?, hx] at hs
      | _ => rfl
    rw [heard_of_frame hframe, heard_of_frame hframe]
  | _ =>
    rw [h.eq_of_listening (by rw [hx]; rfl)]
    rfl

/-- A frame is noise exactly if it is read by one of the requests and names another. -/
lemma isNoise_of_heard {r : Uuid × Response} (h : x.heard? e = some r) :
    x.isNoise who e = (who r.1 && !r.2.isFor r.1) := by
  obtain ⟨c, hx, hc, hf⟩ := heard_eq_some h
  unfold Event.frame? at hf
  split at hf
  · rename_i m
    have hm : m.isNoiseFor r.1 = !r.2.isFor r.1 := by
      cases m with
      | text | binary => simp [Message.isNoiseFor, hf]
      | _ => cases hf
    simp [isNoise, hx, hc, hm]
  · cases hf

lemma without_after_of_isNoise (hm : Matches who x x') (hm' : Matches who y x')
    (hn : x.isNoise who e = true) : (t.after x e y).without who = t.without who := by
  have hasked : e.asked? = none := by
    cases e with
    | submit => simp [isNoise] at hn
    | _ => rfl
  have hended : t.outcome? x y = none := by
    rw [Transcript.outcome?, ← hm.outcome, hm'.outcome]
    cases y.activity.outcome? <;> rfl
  have hheard : (x.heard? e).toList.filter (fun r => !who r.1 || r.2.isFor r.1) = [] := by
    cases hr : x.heard? e with
    | none => rfl
    | some r => simpa [isNoise_of_heard hr] using hn
  simp [Transcript.without, Transcript.after, hasked, hended, hheard]

lemma without_after_of_matches (hm : Matches who x x') (hm' : Matches who y y')
    (h : x.step? config now e = some y) (hn : x.isNoise who e = false) :
    (t.after x e y).without who = (t.without who).after x' e y' := by
  have hended : (t.without who).outcome? x' y' = t.outcome? x y := by
    rw [Transcript.outcome?, hm.outcome, hm'.outcome]
    rfl
  have hheard : (x.heard? e).toList.filter (fun r => !who r.1 || r.2.isFor r.1) =
      (x.heard? e).toList := by
    cases hr : x.heard? e with
    | none => rfl
    | some r =>
      have := hn
      rw [isNoise_of_heard hr] at this
      cases hw : who r.1 <;> simp_all
  unfold Transcript.after
  rw [hended, hm.heard h]
  simp [Transcript.without, hheard]

/-- A run is matched, step for step, by the same run without the noise. -/
theorem matches_of_run (hm : Matches who x x') (h : x.run? config events = some y)
    (he : ∀ e ∈ events, e.2.isSmooth = true) :
    ∃ y', x'.run? config (x.quieten config who events) = some y' ∧ Matches who y y' ∧
      x'.transcript config (t.without who) (x.quieten config who events) =
        (x.transcript config t events).without who := by
  -- on the events, with both sessions and what was told before them as parameters
  induction events generalizing x x' t with
  | nil =>
    cases h
    exact ⟨x', rfl, hm, rfl⟩
  | cons e events ih =>
    obtain ⟨z, hz, hrun⟩ := run_cons.1 h
    have hsmooth : ∀ e' ∈ events, e'.2.isSmooth = true :=
      fun e' h' => he e' (List.mem_cons_of_mem _ h')
    rw [transcript_cons hz, quieten, hz]
    dsimp only
    split
    · rename_i hn
      have hz' := matches_of_isNoise hm hz hn
      rw [← without_after_of_isNoise hm hz' hn]
      exact ih hz' hrun hsmooth
    · rename_i hn
      have hn : x.isNoise who e.2 = false := by simpa using hn
      obtain ⟨z', hstep, hz'⟩ := matches_of_step hm hz (he e (List.mem_cons_self ..)) hn
      obtain ⟨y', hrun', hy', ht⟩ := ih hz' hrun hsmooth
      refine ⟨y', run_cons.2 ⟨z', hstep, hrun'⟩, hy', ?_⟩
      rw [transcript_cons hstep, ← without_after_of_matches hm hz' hz hn]
      exact ht

/-- Requests with different identifiers, one after another on one session, whose sends succeed.
Without the noise to any of them the session is the same whenever no request is out, each request
has the same outcome, and they read the same frames but for those that name another request. No
request ends twice, and one that completes has exactly the values of the frames that carry its
identifier and that it read itself. -/
theorem outcomes_without_noise {config : ClientConfig} {x y : Session}
    {events : List (Instant × Event)} (hx : x.activity.stage ≠ .serving)
    (h : x.run? config events = some y) (he : ∀ e ∈ events, e.2.isSmooth = true)
    (hids : (events.filterMap (·.2.asked?)).Nodup)
    (hframes : ∀ e ∈ events, ∀ f ∈ e.2.frame?, f.requestUuid?.isSome = true) :
    let t := x.transcript config .empty events
    (∀ who, ∃ y', x.run? config (x.quieten config who events) = some y' ∧
      (y.activity.isOut = false → y' = y) ∧
      (x.transcript config .empty (x.quieten config who events)).ended = t.ended ∧
      (x.transcript config .empty (x.quieten config who events)).heard =
        t.heard.filter fun r => !who r.1 || r.2.requestUuid? = some r.1) ∧
    (t.ended.map (·.1)).Nodup ∧
    ∀ id values, (id, .ok values) ∈ t.ended →
      values = ((t.heardBy id).filter fun f => f.requestUuid? = some id ∧ f.bringsValues).flatMap
        fun f => config.decoder.results f.data? := by
  have hown (r) (hr : r ∈ (x.transcript config .empty events).heard) (id : Uuid) :
      r.2.isFor id = decide (r.2.requestUuid? = some id) := by
    rcases frame_of_heard hr with hr | ⟨e, he', hf⟩
    · cases hr
    · obtain ⟨i, hi⟩ := Option.isSome_iff_exists.1 (hframes e he' r.2 hf)
      simp [Response.isFor, hi, beq_eq_decide]
  have htells := tells_of_run (tells_empty hx) h he hids
  refine ⟨fun who => ?_, htells.once, fun id values hid => ?_⟩
  · have hself : Matches who x x :=
      matches_self fun c payload hc => hx (by rw [hc]; rfl)
    obtain ⟨y', hrun, hy, ht⟩ := matches_of_run (t := .empty) hself h he
    change x.transcript config .empty _ = _ at ht
    refine ⟨y', hrun, hy.eq, by rw [ht]; rfl, ?_⟩
    rw [ht]
    exact List.filter_congr fun r hr => by rw [hown r hr]
  · rw [htells.values id values hid, Exchange.delivered, Exchange.own, List.filter_filter]
    congr 1
    apply List.filter_congr
    intro f hf
    obtain ⟨r, hr, rfl⟩ := List.mem_map.1 hf
    rw [hown r (List.mem_of_mem_filter hr), Bool.and_comm, Bool.decide_and, Bool.decide_eq_true]

/-- A frame with one value. -/
def frameOf (id : Uuid) (code : Nat) (value : String) : Event :=
  .received (.ok (some (.text ("\x7b\"requestId\":\"" ++ id.text ++ "\",\"status\":\x7b\"code\":" ++
    toString code ++ "\x7d,\"result\":\x7b\"data\":[\"" ++ value ++ "\"]\x7d\x7d"))))

/-- Two requests. The first hears a ping and a pong before its frame, and the second a frame that
comes late for the first. -/
def noisyRun : List (Instant × Event) :=
  [.opened true, .submit ⟨1⟩ "g.V()", .claim, .sent none, .received (.ok (some (.ping .empty))),
    .sent none, .received (.ok (some (.pong .empty))), frameOf ⟨1⟩ 200 "a", .collect,
    .submit ⟨2⟩ "g.E()", .claim, .sent none, frameOf ⟨1⟩ 206 "b", frameOf ⟨2⟩ 200 "c",
    .collect].map (.ofMillis 0, ·)

/-- A session that is being opened. -/
def freshSession : Session := Session.opening {} 0 (.ofMillis 0)

-- one evaluation for all that depends on the frames, since reading them is what takes long
lemma noisyRun_evaluated :
    (freshSession.run? {} noisyRun).any (fun y => !y.activity.isOut) = true ∧
      noisyRun.all (fun e => e.2.frame?.all (·.requestUuid?.isSome)) = true ∧
      (freshSession.quieten {} (fun _ => true) noisyRun).length + 4 = noisyRun.length ∧
      (freshSession.transcript {} .empty noisyRun).ended.map (·.1) = [⟨1⟩, ⟨2⟩] := by
  decide +kernel

theorem outcomes_of_noisyRun :
    let t := freshSession.transcript {} .empty noisyRun
    ∃ y, freshSession.run? {} noisyRun = some y ∧
      freshSession.run? {} (freshSession.quieten {} (fun _ => true) noisyRun) = some y ∧
      (freshSession.quieten {} (fun _ => true) noisyRun).length + 4 = noisyRun.length ∧
      t.ended.map (·.1) = [⟨1⟩, ⟨2⟩] ∧ (t.ended.map (·.1)).Nodup ∧
      ∀ id values, (id, .ok values) ∈ t.ended →
        values = ((t.heardBy id).filter fun f => f.requestUuid? = some id ∧
          f.bringsValues).flatMap fun f => GraphSON.Decoder.standard.results f.data? := by
  obtain ⟨hrun, hframes, hlength, hended⟩ := noisyRun_evaluated
  obtain ⟨y, hy, hout⟩ := (Option.any_eq_true _ _).1 hrun
  have hrest : freshSession.activity.stage ≠ .serving := by decide
  obtain ⟨hquiet, honce, hvalues⟩ := outcomes_without_noise hrest hy (by decide) (by decide)
    fun e he f hf => by
      have := List.all_eq_true.1 hframes e he
      rwa [Option.mem_def.1 hf] at this
  obtain ⟨y', hy', heq, -⟩ := hquiet fun _ => true
  rw [heq (by simpa using hout)] at hy'
  exact ⟨y, hy, hy', hlength, hended, honce, hvalues⟩

end Session

end GraphClient
