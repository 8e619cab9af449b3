import GraphClient.Proofs.History

/-!
# Transcripts of a session

One session serves one request after another on one channel, and what is left over from a request is
read by the next. The transcript of a run tells which request heard which frame and how each request
ended; the values of a request are those of its own frames that it heard itself.
-/

namespace GraphClient

/-- The frame brings values of its request. -/
def Response.bringsValues (f : Response) : Bool := f.status.code = 200 ∨ f.status.code = 206

namespace Exchange

/-- The values that a request gets from the frames it hears. -/
def delivered (id : Uuid) (decoder : GraphSON.Decoder) (frames : List Response) : List Value :=
  ((own id frames).filter (·.bringsValues)).flatMap fun f => decoder.results f.data?

variable {id : Uuid} {hasCredentials : Bool} {decoder : GraphSON.Decoder}
variable {x : Exchange} {before : List Response} {f : Response}

lemma bringsValues_of_pending (h : Pending id hasCredentials before) :
    ∀ f ∈ own id before, f.bringsValues = f.isPartial := by
  induction h with
  | nil => simp [own]
  | concat before f _ hf ih =>
    intro g hg
    rw [own_concat, List.mem_append] at hg
    rcases hg with hg | hg
    · exact ih g hg
    · obtain ⟨hown, rfl⟩ : f.isFor id = true ∧ g = f := by
        split at hg <;> simp_all
      rcases hf hown with hp | ⟨hc, -⟩
      · simp_all [Response.bringsValues, Response.isPartial]
      · rcases (by simpa [Response.isChallenge] using hc : _ ∨ _) with hcode | hcode <;>
          simp [Response.bringsValues, Response.isPartial, hcode]

lemma delivered_of_pending (h : Pending id hasCredentials before) :
    delivered id decoder before = gathered id decoder before := by
  rw [delivered, gathered, List.filter_congr (bringsValues_of_pending h)]

lemma delivered_concat :
    delivered id decoder (before ++ [f]) = delivered id decoder before ++
      if f.isFor id ∧ f.bringsValues then decoder.results f.data? else [] := by
  rw [delivered, own_concat]
  cases f.isFor id <;> cases hp : f.bringsValues <;> simp [delivered, hp]

/-- A request that completes has the values of its frames up to the last. -/
lemma delivered_of_complete {values : List Value} (hb : Pending id hasCredentials before)
    (hx : Reached id hasCredentials decoder before x)
    (h : (x.onFrame decoder f).2 = .complete values) :
    values = delivered id decoder (before ++ [f]) := by
  by_cases hf : Passes id hasCredentials before f
  · have hreply := (onFrame_of_passes hx hf).1.symm.trans h
    unfold reply at hreply
    split at hreply <;> cases hreply
  · have hown : f.isFor id = true := by
      by_contra hown
      exact hf fun h => absurd h hown
    rw [onFrame_of_not_passes hx hf] at h
    rw [delivered_concat, delivered_of_pending hb]
    unfold verdict at h
    split at h <;> cases h <;> rename_i hcode <;> simp [hown, Response.bringsValues, hcode]

end Exchange

/-- What became of the requests of a session: those that were made, in their order; the frames that
were read, each with the request that read it; and the requests that ended. -/
structure Transcript where
  asked : List Uuid
  heard : List (Uuid × Response)
  ended : List (Uuid × Outcome)

namespace Transcript

def empty : Transcript := ⟨[], [], []⟩

/-- The frames that a request has read. -/
def heardBy (t : Transcript) (id : Uuid) : List Response :=
  (t.heard.filter (·.1 = id)).map (·.2)

end Transcript

namespace Session

def Event.asked? : Event → Option Uuid
  | submit id _ => some id
  | _ => none

/-- The event is neither a send that fails nor the drop of a request. -/
def Event.isSmooth : Event → Bool
  | cancel | sent (some _) => false
  | _ => true

def Event.frame? : Event → Option Response
  | received (.ok (some m)) => m.response?
  | _ => none

/-- The frame that is read in an event, and the request that reads it. -/
def heard? (x : Session) (e : Event) : Option (Uuid × Response) :=
  match x.activity with
  | .receiving c => e.frame?.map (c.exchange.requestId, ·)
  | _ => none

end Session

namespace Transcript

/-- The outcome of the last request, where a step brings one. -/
def outcome? (t : Transcript) (x y : Session) : Option (Uuid × Outcome) :=
  match x.activity.outcome?, y.activity.outcome? with
  | none, some outcome => t.asked.getLast?.map (·, outcome)
  | _, _ => none

def after (t : Transcript) (x : Session) (e : Session.Event) (y : Session) : Transcript where
  asked := t.asked ++ e.asked?.toList
  heard := t.heard ++ (x.heard? e).toList
  ended := t.ended ++ (t.outcome? x y).toList

end Transcript

namespace Session

/-- The transcript of a run, after what there was before. -/
def transcript (config : ClientConfig) (x : Session) (t : Transcript) :
    List (Instant × Event) → Transcript
  | [] => t
  | (now, e) :: events =>
    match x.step? config now e with
    | none => t
    | some y => y.transcript config (t.after x e y) events

variable {config : ClientConfig} {now : Instant} {x y : Session} {e : Event}
variable {events : List (Instant × Event)} {t : Transcript} {id : Uuid} {frames : List Response}

lemma run_cons : x.run? config ((now, e) :: events) = some y ↔
    ∃ z, x.step? config now e = some z ∧ z.run? config events = some y := by
  rw [run?, List.foldlM_cons]
  exact Option.bind_eq_some_iff

lemma transcript_cons (h : x.step? config now e = some y) :
    x.transcript config t ((now, e) :: events) = y.transcript config (t.after x e y) events := by
  rw [transcript, h]

/-- How a session serves a request that has read some frames. -/
inductive Serving (config : ClientConfig) (id : Uuid) (frames : List Response) : Activity → Prop
  | claiming (script : String) (h : frames = []) :
      Serving config id frames (.claimingRequest id script)
  | talking (c : Conversation) (a : Activity) (ha : a.conversation? = some c)
      (hp : Exchange.Pending id config.credentials.isSome frames)
      (hx : Exchange.Reached id config.credentials.isSome config.decoder frames c.exchange) :
      Serving config id frames a
  | closing (e : ClientError) : Serving config id frames (.closingAfter e)
  | ended (outcome : Outcome)
      (h : ∀ values, outcome = .ok values →
        values = Exchange.delivered id config.decoder frames) :
      Serving config id frames (.finished outcome)

lemma Serving.of_same {a b : Activity} (h : Serving config id frames a)
    (ha : b.conversation? = a.conversation?) (hc : a.conversation?.isSome = true) :
    Serving config id frames b := by
  cases h with
  | talking c _ hac hp hx => exact .talking c b (ha.trans hac) hp hx
  | _ => cases hc

lemma Serving.stage {a : Activity} (h : Serving config id frames a) : a.stage = .serving := by
  cases h with
  | talking c _ ha => exact Activity.stage_of_conversation ha
  | _ => rfl

lemma serving_of_conclude {outcome : Outcome}
    (h : ∀ values, outcome = .ok values → values = Exchange.delivered id config.decoder frames) :
    Serving config id frames (x.conclude outcome).activity := by
  unfold conclude
  split
  · split
    · exact .closing _
    · exact .ended _ h
  · exact .ended _ h

lemma serving_of_frame {c : Conversation} {f : Response}
    (hp : Exchange.Pending id config.credentials.isSome frames)
    (hx : Exchange.Reached id config.credentials.isSome config.decoder frames c.exchange) :
    Serving config id (frames ++ [f]) (x.onFrame config c f).activity := by
  by_cases hf : Exchange.Passes id config.credentials.isSome frames f
  · obtain ⟨hreply, hy⟩ := Exchange.onFrame_of_passes hx hf
    have htalk := Exchange.Pending.concat frames f hp hf
    have hgoes : (c.exchange.onFrame config.decoder f).2.isEnd = false := by
      rw [hreply, Exchange.isEnd_reply]
    unfold onFrame
    dsimp only
    split
    · exact .talking _ _ rfl htalk hy
    · rename_i h
      rw [h] at hgoes
      cases hgoes
    · rename_i h
      rw [h] at hgoes
      cases hgoes
    · split
      · exact serving_of_conclude fun _ h => by cases h
      · exact .talking _ _ rfl htalk hy
  · have hend : (c.exchange.onFrame config.decoder f).2.isEnd = true := by
      rw [Exchange.onFrame_of_not_passes hx hf, Exchange.isEnd_verdict]
    unfold onFrame
    dsimp only
    split
    · rename_i h
      rw [h] at hend
      cases hend
    · rename_i values h
      exact serving_of_conclude fun _ he => by
        cases he
        exact Exchange.delivered_of_complete hp hx h
    · exact serving_of_conclude fun _ h => by cases h
    · rename_i h
      rw [h] at hend
      cases hend

/-- A request goes on or ends with whatever it receives. -/
lemma serving_of_received {c : Conversation} {result : Except TransportError (Option Message)}
    (hp : Exchange.Pending id config.credentials.isSome frames)
    (hx : Exchange.Reached id config.credentials.isSome config.decoder frames c.exchange) :
    Serving config id (frames ++ (Event.received result).frame?.toList)
      (x.onReceived config c result).activity := by
  have hpayload (payload : Except TransportError Response) :
      Serving config id (frames ++ payload.toOption.toList)
        (x.onPayload config c payload).activity := by
    cases payload with
    | ok f => exact serving_of_frame hp hx
    | error => exact serving_of_conclude fun _ h => by cases h
  have hsame : Serving config id (frames ++ []) (.receiving c) := by
    rw [List.append_nil]
    exact .talking c _ rfl hp hx
  unfold onReceived
  split
  · exact serving_of_conclude fun _ h => by cases h
  · exact serving_of_conclude fun _ h => by cases h
  · unfold onMessage
    split
    · exact hpayload _
    · exact hpayload _
    · exact hsame.of_same rfl rfl
    · exact hsame
    · exact serving_of_conclude fun _ h => by cases h

lemma heard_eq_some {r : Uuid × Response} (h : x.heard? e = some r) :
    ∃ c, x.activity = .receiving c ∧ c.exchange.requestId = r.1 ∧ e.frame? = some r.2 := by
  unfold heard? at h
  split at h
  · rename_i c hx
    obtain ⟨f, hf, rfl⟩ := Option.map_eq_some_iff.1 h
    exact ⟨c, hx, rfl, hf⟩
  · cases h

lemma heard_of_receiving {c : Conversation} (hx : x.activity = .receiving c) :
    (x.heard? e).map (·.2) = e.frame? := by
  simp only [heard?, hx, Option.map_map]
  exact Option.map_id'

lemma heard_of_frame (h : e.frame? = none) : x.heard? e = none := by
  unfold heard?
  split
  · rw [h]
    rfl
  · rfl

lemma heard_of_not_receiving (h : ∀ c, x.activity ≠ .receiving c) : x.heard? e = none := by
  unfold heard?
  split
  · rename_i c hx
    exact absurd hx (h c)
  · rfl

/-- What a session does by itself while it serves a request. -/
lemma serving_of_proceeds (h : x.Proceeds config now e y) (he : e.isSmooth = true)
    (hs : Serving config id frames x.activity) :
    Serving config id (frames ++ ((x.heard? e).map (·.2)).toList) y.activity := by
  by_cases hr : ∃ result, e = .received result
  · obtain ⟨result, rfl⟩ := hr
    cases h with
    | received c _ hx =>
      rw [heard_of_receiving hx]
      rw [hx] at hs
      cases hs with
      | talking _ _ ha hp hx =>
        cases ha
        exact serving_of_received hp hx
    | keepalive _ _ hk => simp at hk
  · have hframe : e.frame? = none := by
      cases e with
      | received result => exact absurd ⟨result, rfl⟩ hr
      | _ => rfl
    rw [heard_of_frame hframe, Option.map_none, Option.toList_none, List.append_nil]
    cases h with
    | claimRequest i script hx =>
      rw [hx] at hs
      cases hs with
      | claiming _ hf =>
        subst hf
        exact .talking _ _ rfl .nil (Exchange.reached_new _ _ _)
      | talking _ _ ha => cases ha
    | claimNothing i script hx => exact .ended _ fun _ h => by cases h
    | sentRequest c hx => exact hs.of_same (by rw [hx]; rfl) (by rw [hx]; rfl)
    | sentPong c payload hx => exact hs.of_same (by rw [hx]; rfl) (by rw [hx]; rfl)
    | sentAnswer c answer hx => exact hs.of_same (by rw [hx]; rfl) (by rw [hx]; rfl)
    | sendFailed => cases he
    | received c result => exact absurd ⟨result, rfl⟩ hr
    | closedAfter e hx => exact .ended _ fun _ h => by cases h
    | keepalive => exact hs
    | _ =>
      have := hs.stage
      simp_all [Activity.stage]

/-- What the user of a session does: one constructor for each of its events. -/
inductive Directed (x : Session) : Event → Session → Prop
  | submit (id : Uuid) (script : String) (hx : x.activity = .resting) :
      Directed x (.submit id script) { x with activity := .claimingRequest id script }
  | disconnect (hx : x.activity = .resting) :
      Directed x .disconnect { x with stopping := true, activity := .claimingEnd }
  | cancel (hx : x.activity.isRequest = true) : Directed x .cancel { x with activity := .resting }
  | collect (hx : (∃ outcome, x.activity = .finished outcome) ∨ x.activity = .ended) :
      Directed x .collect { x with activity := .resting }

lemma directed_of_step (he : Pool.isOwnEvent e = false) (h : x.step? config now e = some y) :
    x.Directed e y := by
  unfold step? at h
  cases e with
  | submit id script =>
    dsimp only at h
    split at h <;> cases h
    rename_i hx
    exact .submit id script hx
  | disconnect =>
    dsimp only at h
    split at h <;> cases h
    rename_i hx
    exact .disconnect hx
  | cancel =>
    dsimp only at h
    split at h <;> cases h
    rename_i hx
    exact .cancel hx
  | collect =>
    dsimp only at h
    split at h <;> cases h <;> rename_i hx
    · exact .collect (.inl ⟨_, hx⟩)
    · exact .collect (.inr hx)
  | _ => cases he

lemma stage_of_outcome {outcome : Outcome} (h : x.activity.outcome? = some outcome) :
    x.activity.stage = .serving := by
  cases hx : x.activity <;> simp_all [Activity.outcome?, Activity.stage]

lemma asked_of_own (h : Pool.isOwnEvent e = true) : e.asked? = none := by
  cases e <;> first | rfl | cases h

/-- A session that serves no request begins to serve one only where its user makes one. -/
lemma step_of_not_serving (hx : x.activity.stage ≠ .serving) (h : x.step? config now e = some y) :
    (∃ id script, e = .submit id script ∧ y.activity = .claimingRequest id script) ∨
      (e.asked? = none ∧ y.activity.stage ≠ .serving) := by
  cases he : Pool.isOwnEvent e with
  | true =>
    refine .inr ⟨asked_of_own he, ?_⟩
    cases proceeds_of_step he h with
    | sendFailed c _ hs =>
      exact absurd (Activity.stage_of_conversation (Activity.conversation_of_sending hs)) hx
    | keepalive => exact hx
    | opened | openExpired | claimEnd | claimEnded | closedEnd =>
      simp [started, Activity.stage]
    | _ => simp_all [Activity.stage]
  | false =>
    cases directed_of_step he h with
    | submit id script => exact .inl ⟨id, script, rfl, rfl⟩
    | _ => exact .inr ⟨rfl, by simp [Activity.stage]⟩

/-- A session that serves a request goes on by itself, unless its user takes note of the end. -/
lemma step_of_serving (hx : x.activity.stage = .serving) (he : e.isSmooth = true)
    (h : x.step? config now e = some y) :
    (e.asked? = none ∧ x.Proceeds config now e y) ∨ (e = .collect ∧ y.activity = .resting) := by
  cases ho : Pool.isOwnEvent e with
  | true => exact .inl ⟨asked_of_own ho, proceeds_of_step ho h⟩
  | false =>
    cases directed_of_step ho h with
    | submit id script ha => simp [ha, Activity.stage] at hx
    | disconnect ha => simp [ha, Activity.stage] at hx
    | cancel => cases he
    | collect => exact .inr ⟨rfl, rfl⟩

/-- What a transcript tells about its session. -/
structure Tells (config : ClientConfig) (t : Transcript) (x : Session) : Prop where
  heard : ∀ r ∈ t.heard, r.1 ∈ t.asked
  ended : ∀ r ∈ t.ended, r.1 ∈ t.asked
  once : (t.ended.map (·.1)).Nodup
  serving : x.activity.stage = .serving → ∃ id, t.asked.getLast? = some id ∧
    Serving config id (t.heardBy id) x.activity ∧
    (x.activity.outcome? = none → id ∉ t.ended.map (·.1))
  values : ∀ id values, (id, .ok values) ∈ t.ended →
    values = Exchange.delivered id config.decoder (t.heardBy id)

lemma heardBy_of_not_mem (h : ∀ r ∈ t.heard, r.1 ∈ t.asked) (hid : id ∉ t.asked) :
    t.heardBy id = [] := by
  rw [Transcript.heardBy, List.map_eq_nil_iff, List.filter_eq_nil_iff]
  intro r hr he
  exact hid (of_decide_eq_true he ▸ h r hr)

lemma heardBy_after (t : Transcript) (x : Session) (e : Event) (y : Session) (id : Uuid) :
    (t.after x e y).heardBy id =
      t.heardBy id ++ (((x.heard? e).filter (·.1 = id)).map (·.2)).toList := by
  rw [Transcript.heardBy, Transcript.heardBy, Transcript.after, List.filter_append, List.map_append]
  congr 1
  cases x.heard? e with
  | none => rfl
  | some r => by_cases h : r.1 = id <;> simp [h, Option.filter]

/-- A step tells nothing that neither makes a request, reads a frame nor ends a request. -/
lemma after_of_silent (ha : e.asked? = none) (hh : x.heard? e = none)
    (ho : x.activity.outcome? = none → y.activity.outcome? = none) : t.after x e y = t := by
  have hnone : t.outcome? x y = none := by
    unfold Transcript.outcome?
    split
    · rename_i outcome hx hy
      rw [ho hx] at hy
      cases hy
    · rfl
  simp [Transcript.after, ha, hh, hnone]

/-- A session begins to serve a new request. -/
lemma Tells.asked {script : String} (ht : Tells config t x) (hid : id ∉ t.asked)
    (hy : y.activity = .claimingRequest id script) :
    Tells config { t with asked := t.asked ++ [id] } y where
  heard r hr := List.mem_append_left _ (ht.heard r hr)
  ended r hr := List.mem_append_left _ (ht.ended r hr)
  once := ht.once
  serving _ := by
    have hnone : t.heardBy id = [] := heardBy_of_not_mem ht.heard hid
    refine ⟨id, by simp, ?_, fun _ hr => ?_⟩
    · rw [hy]
      exact .claiming script hnone
    · obtain ⟨r, hr, rfl⟩ := List.mem_map.1 hr
      exact hid (ht.ended r hr)
  values := ht.values

lemma reader_of_serving {r : Uuid × Response} (hs : Serving config id frames x.activity)
    (h : x.heard? e = some r) : r.1 = id ∧ x.activity.outcome? = none := by
  obtain ⟨c, hx, hr, -⟩ := heard_eq_some h
  rw [hx] at hs ⊢
  cases hs with
  | talking c' _ ha hp hx =>
    cases ha
    exact ⟨hr.symm.trans hx.requestId, rfl⟩

lemma outcome_eq_some {r : Uuid × Outcome} (h : t.outcome? x y = some r) :
    x.activity.outcome? = none ∧ y.activity = .finished r.2 ∧ t.asked.getLast? = some r.1 := by
  unfold Transcript.outcome? at h
  split at h
  · rename_i outcome hx hy
    obtain ⟨id, hid, rfl⟩ := Option.map_eq_some_iff.1 h
    refine ⟨hx, ?_, hid⟩
    cases ha : y.activity <;> simp_all [Activity.outcome?]
  · cases h

lemma same_of_finished (h : x.Proceeds config now e y) (hx : x.activity.outcome? ≠ none) :
    y.activity = x.activity := by
  cases h with
  | sendFailed c _ hs => cases ha : x.activity <;> simp_all [Activity.outcome?, Activity.sending?]
  | keepalive => rfl
  | _ => simp_all [Activity.outcome?]

/-- A session serves its request one step further. -/
lemma Tells.proceeds (ht : Tells config t x) (hx : x.activity.stage = .serving)
    (h : x.Proceeds config now e y) (he : e.isSmooth = true) (ha : e.asked? = none) :
    Tells config (t.after x e y) y := by
  obtain ⟨id, hlast, hs, hopen⟩ := ht.serving hx
  have hmem : id ∈ t.asked := List.mem_of_getLast? hlast
  have hasked : (t.after x e y).asked = t.asked := by simp [Transcript.after, ha]
  have hheard : (t.after x e y).heardBy id =
      t.heardBy id ++ ((x.heard? e).map (·.2)).toList := by
    rw [heardBy_after]
    cases hr : x.heard? e with
    | none => rfl
    | some r => simp [Option.filter, (reader_of_serving hs hr).1]
  have hserving : Serving config id ((t.after x e y).heardBy id) y.activity := by
    rw [hheard]
    exact serving_of_proceeds h he hs
  have hended (r) (hr : r ∈ t.outcome? x y) :
      r.1 = id ∧ id ∉ t.ended.map (·.1) ∧ y.activity = .finished r.2 := by
    obtain ⟨hxo, hy, hid⟩ := outcome_eq_some hr
    exact ⟨Option.some.inj (hid.symm.trans hlast), hopen hxo, hy⟩
  constructor
  case heard =>
    intro r hr
    rw [hasked]
    rcases List.mem_append.1 hr with hr | hr
    · exact ht.heard r hr
    · rw [(reader_of_serving hs (Option.mem_toList.1 hr)).1]
      exact hmem
  case ended =>
    intro r hr
    rw [hasked]
    rcases List.mem_append.1 hr with hr | hr
    · exact ht.ended r hr
    · rw [(hended r (Option.mem_toList.1 hr)).1]
      exact hmem
  case once =>
    rw [Transcript.after, List.map_append]
    cases hr : t.outcome? x y with
    | none => simpa using ht.once
    | some r =>
      obtain ⟨hid, hnew, -⟩ := hended r hr
      have : r.1 ∉ t.ended.map (·.1) := by rwa [hid]
      simpa using ht.once.concat this
  case serving =>
    intro hy
    refine ⟨id, hasked ▸ hlast, hserving, fun hyo => ?_⟩
    have hxo : x.activity.outcome? = none := by
      by_contra hxo
      exact hxo ((same_of_finished h hxo) ▸ hyo)
    have hnone : t.outcome? x y = none := by simp [Transcript.outcome?, hxo, hyo]
    simpa [Transcript.after, hnone] using hopen hxo
  case values =>
    intro i values hi
    rcases List.mem_append.1 hi with hi | hi
    · have hsame : (t.after x e y).heardBy i = t.heardBy i := by
        rw [heardBy_after]
        cases hr : x.heard? e with
        | none => exact List.append_nil _
        | some r =>
          obtain ⟨hid, hxo⟩ := reader_of_serving hs hr
          -- a request that has ended reads no more frames
          have hne : r.1 ≠ i := by
            rw [hid]
            rintro rfl
            exact hopen hxo (List.mem_map_of_mem hi)
          simp [Option.filter, hne]
      rw [hsame]
      exact ht.values i values hi
    · obtain ⟨rfl, -, hy⟩ := hended _ (Option.mem_toList.1 hi)
      rw [hy] at hserving
      cases hserving with
      | talking _ _ ha => cases ha
      | ended _ h => exact h values rfl

theorem tells_of_step (ht : Tells config t x) (h : x.step? config now e = some y)
    (he : e.isSmooth = true) (hnew : ∀ id ∈ e.asked?, id ∉ t.asked) :
    Tells config (t.after x e y) y := by
  by_cases hx : x.activity.stage = .serving
  · rcases step_of_serving hx he h with ⟨ha, hp⟩ | ⟨rfl, hy⟩
    · exact ht.proceeds hx hp he ha
    · rw [after_of_silent rfl (heard_of_frame rfl) (by simp [hy, Activity.outcome?])]
      exact { ht with serving := by simp [hy, Activity.stage] }
  · have hheard : x.heard? e = none :=
      heard_of_not_receiving fun c hc => hx (by rw [hc]; rfl)
    rcases step_of_not_serving hx h with ⟨id, script, rfl, hy⟩ | ⟨ha, hy⟩
    · have hafter : t.after x (.submit id script) y = { t with asked := t.asked ++ [id] } := by
        simp [Transcript.after, hheard, Transcript.outcome?, hy, Activity.outcome?, Event.asked?]
      rw [hafter]
      exact ht.asked (hnew id rfl) hy
    · have hout : y.activity.outcome? = none := by
        by_contra hout
        obtain ⟨outcome, hout⟩ := Option.ne_none_iff_exists'.1 hout
        exact hy (stage_of_outcome hout)
      rw [after_of_silent ha hheard fun _ => hout]
      exact { ht with serving := fun h => absurd h hy }

/-- A run in which no request is made twice, told from its start. -/
theorem tells_of_run (ht : Tells config t x) (h : x.run? config events = some y)
    (he : ∀ e ∈ events, e.2.isSmooth = true)
    (hnew : (t.asked ++ events.filterMap (·.2.asked?)).Nodup) :
    Tells config (x.transcript config t events) y := by
  induction events generalizing x t with
  | nil =>
    cases h
    exact ht
  | cons e events ih =>
    obtain ⟨z, hz, hrun⟩ := run_cons.1 h
    rw [transcript_cons hz]
    have hsplit : (e :: events).filterMap (·.2.asked?) =
        e.2.asked?.toList ++ events.filterMap (·.2.asked?) := by
      cases ha : e.2.asked? <;> simp [ha]
    rw [hsplit, ← List.append_assoc] at hnew
    have hstep := tells_of_step ht hz (he e (List.mem_cons_self ..)) (by
      intro id hid hmem
      have := (List.nodup_append.1 (List.nodup_append.1 hnew).1).2.2
      exact this id hmem id (Option.mem_toList.2 hid) rfl)
    exact ih hstep hrun (fun e' h' => he e' (List.mem_cons_of_mem _ h')) hnew

lemma mem_frames_of_step {r : Uuid × Response} (h : r ∈ (t.after x e y).heard) :
    r ∈ t.heard ∨ e.frame? = some r.2 := by
  rcases List.mem_append.1 h with hr | hr
  · exact .inl hr
  · obtain ⟨_, _, _, hf⟩ := heard_eq_some (Option.mem_toList.1 hr)
    exact .inr hf

/-- Every frame that was read came in an event of the run. -/
lemma frame_of_heard {r : Uuid × Response} (h : r ∈ (x.transcript config t events).heard) :
    r ∈ t.heard ∨ ∃ e ∈ events, e.2.frame? = some r.2 := by
  induction events generalizing x t with
  | nil => exact .inl h
  | cons e events ih =>
    unfold transcript at h
    split at h
    · exact .inl h
    · rcases ih h with hr | ⟨e', he', hf⟩
      · rcases mem_frames_of_step hr with hr | hf
        · exact .inl hr
        · exact .inr ⟨e, List.mem_cons_self .., hf⟩
      · exact .inr ⟨e', List.mem_cons_of_mem _ he', hf⟩

lemma tells_empty (hx : x.activity.stage ≠ .serving) : Tells config .empty x where
  heard := by simp [Transcript.empty]
  ended := by simp [Transcript.empty]
  once := List.nodup_nil
  serving h := absurd h hx
  values := by simp [Transcript.empty]

end Session

end GraphClient
