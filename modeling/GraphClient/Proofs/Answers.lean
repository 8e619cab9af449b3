import GraphClient.Proofs.History
import Mathlib.Algebra.GroupWithZero.Nat

/-!
# Answers to requests

A session is lent again once its request is over. Mostly a frame has ended the request, or it never
went out; but an error that leaves the channel open also ends it, and then its answer may still come
while the next request is out. The requests without an answer are exactly those.
-/

namespace GraphClient

namespace Note

/-- The note is about a request on the channel of a session. -/
def isOn (s : Nat) : Note → Bool
  | asked t _ | unsent t _ | answered t _ | broken t _ => t = s
  | _ => false

/-- The requests that are out on the channel of a session, after a note. -/
def countOn (s : Nat) (ids : List Uuid) : Note → List Uuid
  | asked t id => if t = s then id :: ids else ids
  | unsent t id | answered t id => if t = s then ids.erase id else ids
  | _ => ids

def brokenOn? (s : Nat) : Note → Option Uuid
  | broken t id => if t = s then some id else none
  | _ => none

def askedOn? (s : Nat) : Note → Option Uuid
  | asked t id => if t = s then some id else none
  | _ => none

end Note

namespace Log

/-- The last thing that happened to a request on the channel of a session. -/
def latest? (s : Nat) (log : List Note) : Option Note := (log.filter (·.isOn s)).getLast?

/-- The last request on the channel of a session. -/
def lastAsked? (s : Nat) (log : List Note) : Option Uuid :=
  (log.filterMap (Note.askedOn? s)).getLast?

/-- The requests on the channel of a session that have gone out and that no frame has ended. -/
def unanswered (s : Nat) (log : List Note) : List Uuid := log.foldl (Note.countOn s) []

/-- The requests on the channel of a session that an error has left without an answer. -/
def broken (s : Nat) (log : List Note) : List Uuid := log.filterMap (Note.brokenOn? s)

/-- The requests without an answer are those that an error has left so. -/
def Settled (s : Nat) (log : List Note) : Prop := (unanswered s log).Perm (broken s log)

/-- One more request is out, the last one. -/
def Pending (s : Nat) (id : Uuid) (log : List Note) : Prop :=
  (unanswered s log).Perm (id :: broken s log) ∧ lastAsked? s log = some id

/-- The last request is over, and no other is out. -/
def Resolved (s : Nat) (log : List Note) : Prop :=
  Settled s log ∧ ∃ id, lastAsked? s log = some id ∧ (latest? s log = some (.answered s id) ∨
    latest? s log = some (.unsent s id) ∨ latest? s log = some (.broken s id))

/-- At most one request is out beyond those that an error has left without an answer. -/
def Balanced (s : Nat) (log : List Note) : Prop := Settled s log ∨ ∃ id, Pending s id log

variable {s : Nat} {id : Uuid} {log : List Note} {note : Note}

lemma unanswered_concat : unanswered s (log ++ [note]) = note.countOn s (unanswered s log) := by
  rw [unanswered, List.foldl_append]
  rfl

lemma broken_concat : broken s (log ++ [note]) = broken s log ++ (note.brokenOn? s).toList := by
  rw [broken, broken, filterMap_concat]

lemma lastAsked_concat :
    lastAsked? s (log ++ [note]) = (note.askedOn? s).or (lastAsked? s log) := by
  rw [lastAsked?, List.filterMap_append]
  cases h : note.askedOn? s <;> simp [lastAsked?, h]

lemma latest_concat (h : note.isOn s = true) : latest? s (log ++ [note]) = some note := by
  rw [latest?, List.filter_append, List.filter_cons_of_pos (by simpa using h)]
  simp

lemma same_of_off (log : List Note) (h : note.isOn s = false) :
    unanswered s (log ++ [note]) = unanswered s log ∧ broken s (log ++ [note]) = broken s log ∧
      latest? s (log ++ [note]) = latest? s log ∧
      lastAsked? s (log ++ [note]) = lastAsked? s log := by
  refine ⟨?_, ?_, ?_, ?_⟩
  · rw [unanswered_concat]
    cases note <;> simp_all [Note.isOn, Note.countOn]
  · rw [broken_concat]
    cases note <;> simp_all [Note.isOn, Note.brokenOn?]
  · rw [latest?, latest?, List.filter_append]
    simp [h]
  · rw [lastAsked_concat]
    cases note <;> simp_all [Note.isOn, Note.askedOn?]

lemma pending_of_asked (h : Settled s log) : Pending s id (log ++ [.asked s id]) := by
  have hsame : broken s (log ++ [.asked s id]) = broken s log := by
    rw [broken_concat]
    simp [Note.brokenOn?]
  refine ⟨?_, ?_⟩
  · rw [unanswered_concat, hsame, Note.countOn, if_pos rfl]
    exact h.cons id
  · rw [lastAsked_concat, Note.askedOn?, if_pos rfl]
    rfl

lemma resolved_of_erase (h : Pending s id log) (hn : note = .answered s id ∨ note = .unsent s id) :
    Resolved s (log ++ [note]) := by
  have hu : unanswered s (log ++ [note]) = (unanswered s log).erase id := by
    rw [unanswered_concat]
    rcases hn with rfl | rfl <;> rw [Note.countOn, if_pos rfl]
  have hb : broken s (log ++ [note]) = broken s log := by
    rw [broken_concat]
    rcases hn with rfl | rfl <;> exact List.append_nil _
  have hl : latest? s (log ++ [note]) = some note :=
    latest_concat (by rcases hn with rfl | rfl <;> exact decide_eq_true rfl)
  have ha : lastAsked? s (log ++ [note]) = some id := by
    rw [lastAsked_concat, h.2]
    rcases hn with rfl | rfl <;> rfl
  have herase := h.1.erase id
  rw [List.erase_cons_head] at herase
  refine ⟨by rwa [Settled, hu, hb], id, ha, ?_⟩
  rw [hl]
  rcases hn with rfl | rfl
  · exact .inl rfl
  · exact .inr (.inl rfl)

lemma resolved_of_answered (h : Pending s id log) : Resolved s (log ++ [.answered s id]) :=
  resolved_of_erase h (.inl rfl)

lemma resolved_of_unsent (h : Pending s id log) : Resolved s (log ++ [.unsent s id]) :=
  resolved_of_erase h (.inr rfl)

lemma resolved_of_broken (h : Pending s id log) : Resolved s (log ++ [.broken s id]) := by
  have hb : broken s (log ++ [.broken s id]) = broken s log ++ [id] := by
    rw [broken_concat]
    simp [Note.brokenOn?]
  have ha : lastAsked? s (log ++ [.broken s id]) = some id := by
    rw [lastAsked_concat, h.2]
    rfl
  refine ⟨?_, id, ha, .inr (.inr (latest_concat (decide_eq_true rfl)))⟩
  rw [Settled, unanswered_concat, hb]
  exact h.1.trans (List.perm_append_singleton id (broken s log)).symm

lemma Settled.off (h : Settled s log) (hn : note.isOn s = false) : Settled s (log ++ [note]) := by
  obtain ⟨hu, hb, -, -⟩ := same_of_off log hn
  rwa [Settled, hu, hb]

lemma Pending.off (h : Pending s id log) (hn : note.isOn s = false) :
    Pending s id (log ++ [note]) := by
  obtain ⟨hu, hb, -, ha⟩ := same_of_off log hn
  rwa [Pending, hu, hb, ha]

lemma Resolved.off (h : Resolved s log) (hn : note.isOn s = false) :
    Resolved s (log ++ [note]) := by
  obtain ⟨-, -, hl, ha⟩ := same_of_off log hn
  refine ⟨h.1.off hn, ?_⟩
  rw [hl, ha]
  exact h.2

lemma Balanced.off (h : Balanced s log) (hn : note.isOn s = false) :
    Balanced s (log ++ [note]) := by
  rcases h with h | ⟨id, h⟩
  · exact .inl (h.off hn)
  · exact .inr ⟨id, h.off hn⟩

lemma Settled.unanswered_eq_nil_iff (h : Settled s log) :
    unanswered s log = [] ↔ broken s log = [] := by
  constructor
  · intro hu
    rw [Settled, hu] at h
    exact List.nil_perm.1 h
  · intro hb
    rw [Settled, hb] at h
    exact List.perm_nil.1 h

lemma Balanced.length_le (h : Balanced s log) :
    (unanswered s log).length ≤ (broken s log).length + 1 := by
  rcases h with h | ⟨id, h, -⟩
  · have hlength := h.length_eq
    omega
  · have hlength := h.length_eq
    rw [List.length_cons] at hlength
    omega

end Log

namespace Session

variable {config : ClientConfig} {s : Nat} {x y : Session} {c : Conversation}

/-- How a session that serves a request stands with its log. -/
structure Serves (config : ClientConfig) (s : Nat) (x : Session) (log : List Note) : Prop where
  claiming : ∀ id script, x.activity = .claimingRequest id script → Log.Settled s log
  pending : ∀ c, x.activity.conversation? = some c →
    c.exchange.hasCredentials = config.credentials.isSome ∧
      Log.Pending s c.exchange.requestId log
  finished : ∀ outcome, x.activity = .finished outcome → x.isConnected = true → Log.Resolved s log

/-- How a session in a role stands with its log. -/
def Stands (config : ClientConfig) (s : Nat) (log : List Note) (x : Session) : Option Role → Prop
  | some .spare => Log.Settled s log
  | some .serving => x.Serves config s log
  | some .served => x.isConnected = true → Log.Resolved s log
  | some .ending | none => True

/-- What a receive makes of a session: the request is still out, or the channel is being closed, or
the request is over with a note. -/
inductive Reception (config : ClientConfig) (s : Nat) (c : Conversation) :
    Option Note → Session → Prop
  | goesOn (c' : Conversation) (y : Session) (hy : y.activity.conversation? = some c')
      (hid : c'.exchange.requestId = c.exchange.requestId)
      (hcred : c'.exchange.hasCredentials = c.exchange.hasCredentials) :
      Reception config s c none y
  | fails (e : ClientError) (note : Option Note) (y : Session) (hy : y.activity = .closingAfter e)
      (hn : note = none ∨ note = some (.answered s c.exchange.requestId)) :
      Reception config s c note y
  | answered (outcome : Outcome) (y : Session) (hy : y.activity = .finished outcome) :
      Reception config s c (some (.answered s c.exchange.requestId)) y
  | broken (outcome : Outcome) (y : Session) (hy : y.activity = .finished outcome) :
      Reception config s c (some (.broken s c.exchange.requestId)) y

lemma reception_of_end (outcome : Outcome) :
    Reception config s c (some (.answered s c.exchange.requestId)) (x.conclude outcome) := by
  unfold conclude
  split
  · split
    · exact .fails _ _ _ rfl (.inr rfl)
    · exact .answered _ _ rfl
  · exact .answered _ _ rfl

lemma reception_of_fatal {e : ClientError} (he : e.isFatal = true) :
    Reception config s c none (x.conclude (.error e)) := by
  rw [conclude, if_pos he]
  exact .fails e none _ rfl (.inl rfl)

lemma reception_of_frame (hc : c.exchange.hasCredentials = config.credentials.isSome)
    (frame : Response) :
    Reception config s c ((c.answered? config.decoder frame).map (.answered s))
      (x.onFrame config c frame) := by
  have hsame := Exchange.onFrame_same c.exchange config.decoder frame
  unfold onFrame Conversation.answered?
  dsimp only
  cases ht : (c.exchange.onFrame config.decoder frame).2 with
  | proceed => exact .goesOn _ _ rfl hsame.1 hsame.2
  | complete values => exact reception_of_end _
  | fail e => exact reception_of_end _
  | authenticate =>
    have hsome := hc.symm.trans (Exchange.onFrame_authenticate ht)
    cases hcred : config.credentials with
    | none =>
      rw [hcred] at hsome
      cases hsome
    | some credentials => exact .goesOn _ _ rfl hsame.1 hsame.2

lemma reception_of_payload (hc : c.exchange.hasCredentials = config.credentials.isSome)
    (payload : Except TransportError Response) :
    Reception config s c
      ((payload.toOption.bind (c.answered? config.decoder)).map (.answered s))
      (x.onPayload config c payload) := by
  cases payload with
  | ok frame => exact reception_of_frame hc frame
  | error e => exact reception_of_fatal (e := .protocol _) rfl

lemma reception_of_received (hx : x.activity = .receiving c)
    (hc : c.exchange.hasCredentials = config.credentials.isSome)
    (result : Except TransportError (Option Message)) :
    Reception config s c (x.note? config s (.received result)) (x.onReceived config c result) := by
  unfold note?
  rw [hx]
  match result with
  | .error (.serialization message) => exact .broken _ _ rfl
  | .error (.io _) | .error (.connection _) | .error .closed | .error (.send _) =>
    exact reception_of_fatal (e := .disconnected _) rfl
  | .ok none => exact reception_of_fatal (e := .disconnected _) rfl
  | .ok (some (.text payload)) => exact reception_of_payload hc _
  | .ok (some (.binary payload)) => exact reception_of_payload hc _
  | .ok (some (.ping payload)) => exact .goesOn c _ rfl rfl rfl
  | .ok (some (.pong payload)) => exact .goesOn c _ rfl rfl rfl
  | .ok (some (.close frame)) => exact reception_of_fatal (e := .disconnected _) rfl

variable {log : List Note} {e : Event} {now : Instant}

lemma note_eq_none (h : x.activity.stage ≠ .serving) : x.note? config s e = none := by
  rw [Option.eq_none_iff_forall_ne_some]
  intro note hnote
  apply h
  cases noted_of_note hnote with
  | asked id script hx | answered c m id hx | notReceived c text hx | unsent c text hx =>
    rw [hx]
    rfl
  | notSent c text hx =>
    exact Activity.stage_of_conversation (Activity.conversation_of_sending hx)

lemma serves_of_conversation (hy : y.activity.conversation? = some c)
    (hcred : c.exchange.hasCredentials = config.credentials.isSome)
    (hp : Log.Pending s c.exchange.requestId log) : y.Serves config s log := by
  refine ⟨?_, ?_, ?_⟩
  · intro id script ha
    rw [ha] at hy
    cases hy
  · intro c' hc'
    rw [hy] at hc'
    cases hc'
    exact ⟨hcred, hp⟩
  · intro outcome ha
    rw [ha] at hy
    cases hy

lemma serves_of_finished {outcome : Outcome} (hy : y.activity = .finished outcome)
    (hr : y.isConnected = true → Log.Resolved s log) : y.Serves config s log := by
  refine ⟨?_, ?_, ?_⟩
  · intro id script ha
    rw [hy] at ha
    cases ha
  · intro c hc
    rw [hy] at hc
    cases hc
  · intro _ _
    exact hr

lemma serves_of_closing {e : ClientError} (hy : y.activity = .closingAfter e) :
    y.Serves config s log := by
  refine ⟨?_, ?_, ?_⟩
  · intro id script ha
    rw [hy] at ha
    cases ha
  · intro c hc
    rw [hy] at hc
    cases hc
  · intro outcome ha
    rw [hy] at ha
    cases ha

lemma serves_of_reception {note : Option Note} (h : Reception config s c note y)
    (hcred : c.exchange.hasCredentials = config.credentials.isSome)
    (hp : Log.Pending s c.exchange.requestId log) :
    Log.Balanced s (log ++ note.toList) ∧ y.Serves config s (log ++ note.toList) := by
  cases h with
  | goesOn c' y hy hid hc' =>
    rw [Option.toList_none, List.append_nil]
    exact ⟨.inr ⟨_, hp⟩, serves_of_conversation hy (hc'.trans hcred) (by rwa [hid])⟩
  | fails e note y hy hn =>
    refine ⟨?_, serves_of_closing hy⟩
    rcases hn with rfl | rfl
    · rw [Option.toList_none, List.append_nil]
      exact .inr ⟨_, hp⟩
    · exact .inl (Log.resolved_of_answered hp).1
  | answered outcome y hy =>
    have hr := Log.resolved_of_answered hp
    exact ⟨.inl hr.1, serves_of_finished hy fun _ => hr⟩
  | broken outcome y hy =>
    have hr := Log.resolved_of_broken hp
    exact ⟨.inl hr.1, serves_of_finished hy fun _ => hr⟩

/-- An error of a send closes the channel, or ends the request with a note. -/
lemma serves_of_sendFailed (hx : x.activity.sending? = some c) (failure : TransportError)
    (hp : Log.Pending s c.exchange.requestId log) :
    Log.Balanced s (log ++ (x.note? config s (.sent (some failure))).toList) ∧
      (x.conclude (.error failure.toClientError)).Serves config s
        (log ++ (x.note? config s (.sent (some failure))).toList) := by
  cases hf : failure.isFatal with
  | true =>
    have hnote : x.note? config s (.sent (some failure)) = none := by
      cases failure with
      | serialization => cases hf
      | _ => rfl
    rw [hnote, Option.toList_none, List.append_nil, conclude,
      if_pos (by rw [TransportError.isFatal_toClientError, hf])]
    exact ⟨.inr ⟨_, hp⟩, serves_of_closing rfl⟩
  | false =>
    have hover : Log.Resolved s (log ++ (x.note? config s (.sent (some failure))).toList) := by
      cases failure with
      | serialization message =>
        unfold note?
        cases ha : x.activity with
        | sendingRequest c' =>
          rw [ha] at hx
          cases hx
          exact Log.resolved_of_unsent hp
        | sendingPong c' _ | sendingAnswer c' _ =>
          rw [ha] at hx
          cases hx
          exact Log.resolved_of_broken hp
        | _ =>
          rw [ha] at hx
          cases hx
      | _ => cases hf
    rw [conclude, if_neg (by rw [TransportError.isFatal_toClientError, hf]; simp)]
    exact ⟨.inl hover.1, serves_of_finished rfl fun _ => hover⟩

lemma role_of_serving {r : Option Role} (hr : Role.Admits r x)
    (hx : x.activity.stage = .serving) : r = some .serving := by
  match r, hr with
  | some .serving, _ => rfl
  | some .spare, .inl ho =>
    rw [ho] at hx
    cases hx
  | some .spare, .inr ha | some .served, ha | none, ⟨ha, _⟩ =>
    rw [ha] at hx
    cases hx
  | some .ending, hr =>
    rcases hr with ha | ⟨ha, -⟩ | ⟨ha, -⟩
    all_goals
      rw [ha] at hx
      cases hx

lemma serves_of_proceeds (h : x.Proceeds config now e y) (hx : x.activity.stage = .serving)
    (hb : Log.Balanced s log) (hs : x.Serves config s log) :
    Log.Balanced s (log ++ (x.note? config s e).toList) ∧
      y.Serves config s (log ++ (x.note? config s e).toList) := by
  cases h with
  | opened _ _ ha | openExpired _ ha | claimEnd ha | claimEnded ha | closedEnd ha =>
    rw [ha] at hx
    cases hx
  | claimRequest id script ha _ hc =>
    have hnote : x.note? config s .claim = some (.asked s id) := by
      unfold note?
      rw [ha]
      exact if_pos hc
    have hp : Log.Pending s id (log ++ [.asked s id]) :=
      Log.pending_of_asked (hs.claiming id script ha)
    rw [hnote, Option.toList_some]
    exact ⟨.inr ⟨id, hp⟩, serves_of_conversation rfl rfl hp⟩
  | claimNothing id script ha _ hc =>
    have hnote : x.note? config s .claim = none := by
      have hn : ¬x.hasChannel = true := by rw [hc]; simp
      unfold note?
      rw [ha]
      exact if_neg hn
    rw [hnote, Option.toList_none, List.append_nil]
    exact ⟨hb, serves_of_finished rfl fun hy => by cases hy⟩
  | sentRequest c ha | sentPong c _ ha | sentAnswer c _ ha =>
    have hnote : x.note? config s (.sent none) = none := rfl
    obtain ⟨hcred, hp⟩ := hs.pending c (by rw [ha]; rfl)
    rw [hnote, Option.toList_none, List.append_nil]
    exact ⟨hb, serves_of_conversation rfl hcred hp⟩
  | sendFailed c failure ha =>
    exact serves_of_sendFailed ha failure (hs.pending c (Activity.conversation_of_sending ha)).2
  | received c result ha =>
    obtain ⟨hcred, hp⟩ := hs.pending c (by rw [ha]; rfl)
    exact serves_of_reception (reception_of_received ha hcred result) hcred hp
  | closedAfter failure ha =>
    have hnote : x.note? config s .closed = none := rfl
    rw [hnote, Option.toList_none, List.append_nil]
    exact ⟨hb, serves_of_finished rfl fun hy => by cases hy⟩
  | keepalive e k he =>
    have hnote : x.note? config s e = none := by
      rcases he with rfl | rfl | rfl <;> rfl
    rw [hnote, Option.toList_none, List.append_nil]
    exact ⟨hb, hs.claiming, hs.pending, hs.finished⟩

/-- What a session does by itself leaves it standing with its log. -/
theorem stands_of_proceeds {r : Option Role} (h : x.Proceeds config now e y)
    (hr : Role.Admits r x) (hb : Log.Balanced s log) (hs : x.Stands config s log r) :
    Log.Balanced s (log ++ (x.note? config s e).toList) ∧
      y.Stands config s (log ++ (x.note? config s e).toList) r := by
  by_cases hx : x.activity.stage = .serving
  · cases role_of_serving hr hx
    exact serves_of_proceeds h hx hb hs
  · rw [note_eq_none hx, Option.toList_none, List.append_nil]
    refine ⟨hb, ?_⟩
    match r, hr, hs with
    | some .spare, _, hs => exact hs
    | some .serving, hr, _ => exact absurd hr hx
    | some .served, hr, hs =>
      obtain ⟨k, rfl⟩ := h.of_resting hr
      exact hs
    | some .ending, _, _ => trivial
    | none, _, _ => trivial

lemma Stands.off {r : Option Role} {note : Note} (h : x.Stands config s log r)
    (hn : note.isOn s = false) : x.Stands config s (log ++ [note]) r := by
  match r, h with
  | some .spare, h => exact Log.Settled.off h hn
  | some .serving, h =>
    refine ⟨?_, ?_, ?_⟩
    · intro id script ha
      exact (h.claiming id script ha).off hn
    · intro c hc
      obtain ⟨hcred, hp⟩ := h.pending c hc
      exact ⟨hcred, hp.off hn⟩
    · intro outcome ha hy
      exact (h.finished outcome ha hy).off hn
  | some .served, h =>
    intro hy
    exact (h hy).off hn
  | some .ending, _ => trivial
  | none, _ => trivial

lemma Noted.isOn {note : Note} (h : x.Noted config s e note) (t : Nat) :
    note.isOn t = decide (s = t) := by
  cases h <;> rfl

end Session

namespace Pool

variable {config : ClientConfig} {start : Instant} {log : List Note} {p q : Pool}

lemma Turn.stands {s : Nat} {r r' : Option Role} {x y : Session} (h : Turn r x r' y)
    (hr : Role.Admits r x) (hs : x.Stands config s log r) : y.Stands config s log r' := by
  cases h with
  | begin id script ha =>
    refine ⟨fun _ _ _ => hs, ?_, ?_⟩
    · intro c hc
      cases hc
    · intro outcome hy
      cases hy
  | settle _ outcome ha => exact hs.finished outcome ha
  | putBack _ hc => exact (hs hc).1
  | drain | finish | leave => trivial
  | lapse _ ha =>
    intro hc
    rcases hr with hx | ⟨hx, -⟩ | ⟨-, -, hx⟩
    · rw [ha] at hx
      cases hx
    · rw [ha] at hx
      cases hx
    · have hsame : x.isConnected = true := hc
      rw [hx] at hsame
      cases hsame

/-- Every session stands with its log as its role says. -/
def Kept (config : ClientConfig) (log : List Note) (p : Pool) : Prop :=
  ∀ (s : Nat) (x : Session), p.sessions[s]? = some x →
    Log.Balanced s log ∧ x.Stands config s log (p.role s)

lemma Kept.off {note : Option Note} (h : Kept config log p)
    (hn : ∀ n s, note = some n → n.isOn s = false) : Kept config (log ++ note.toList) p := by
  cases note with
  | none => simpa using h
  | some n =>
    intro s x hx
    exact ⟨(h s x hx).1.off (hn n s rfl), (h s x hx).2.off (hn n s rfl)⟩

/-- Only an event of a session gives a note about its channel. -/
lemma isOn_of_user {e : Event} {note : Note} {s : Nat} (he : ∀ t event, e ≠ .session t event)
    (h : p.note? e = some note) : note.isOn s = false := by
  cases noted_of_note h with
  | session t _ event => exact absurd rfl (he t event)
  | _ => rfl

lemma kept_of_move {e : Event} (hp : Custody p) (hconfig : p.config = config)
    (hk : Kept config log p) (h : Move p e q) : Kept config (log ++ (p.note? e).toList) q := by
  rcases proceeds_or_shift hp h with ⟨s, event, x, y, rfl, hx, hxy, rfl⟩ | ⟨he, hshift⟩
  · have hnote : p.note? (.session s event) = x.note? config s event := by
      rw [← hconfig]
      change p.sessions[s]?.bind _ = _
      rw [hx]
      rfl
    have hstep := Session.stands_of_proceeds (hconfig ▸ hxy) (hp.admits s x hx) (hk s x hx).1
      (hk s x hx).2
    rw [hnote]
    -- the note is about this session, so the others stand as before
    refine forall_roles_update
      (P := fun t r z => Log.Balanced t _ ∧ z.Stands config t _ r) (r := p.role s) hx rfl ?_ ?_ hstep
    · rw [role_setSession, Function.update_eq_self]
    · intro t z ht hz
      cases hn : x.note? config s event with
      | none =>
        rw [Option.toList_none, List.append_nil]
        exact hk t z hz
      | some note =>
        have hoff : note.isOn t = false := by
          rw [(Session.noted_of_note hn).isOn t]
          exact decide_eq_false (Ne.symm ht)
        exact ⟨(hk t z hz).1.off hoff, (hk t z hz).2.off hoff⟩
  · -- no note is about a channel, and at most one session changes its role
    refine Kept.off ?_ fun note s hn => isOn_of_user he hn
    cases hshift with
    | keep hh hs =>
      intro s x hx
      rw [hs] at hx
      rw [role_of_keep hp.nodup hh]
      exact hk s x hx
    | turn s x y r r' hx hs hr hh _ ht =>
      refine forall_roles_update (P := fun t r z => Log.Balanced t log ∧ z.Stands config t log r)
        hx hs (role_of_turn hp.nodup hr hh) (fun t z _ hz => hk t z hz) ⟨(hk s x hx).1, ?_⟩
      rw [← hr] at ht
      exact ht.stands (hp.admits s x hx) (hk s x hx).2

theorem kept_of_history (h : History config start log p) : Kept config log p := by
  induction h with
  | opening =>
    intro s x hx
    have hbal : Log.Settled s [] := List.Perm.refl _
    rw [role_opening hx]
    exact ⟨.inl hbal, hbal⟩
  | act h he ih => exact kept_of_move (custody_of_history h) (config_of_history h) ih (move_of_act he)
  | wait _ _ ih => exact ih

/-- A session that becomes idle again has its last request over. -/
lemma resolved_of_returned {e : Event} {i s : Nat} (hp : Custody p) (hk : Kept config log p)
    (h : p.note? e = some (.returned i s)) : Log.Resolved s log := by
  cases noted_of_note h with
  | returned i c s x outcome hc ht hx hf =>
    have hrole : p.role s = some .served :=
      role_of_task hp hc (by rw [ht]; exact List.mem_singleton_self _)
    have hs := (hk s x hx).2
    rw [hrole] at hs
    exact hs hf
  | session t x event note hx hn =>
    cases hn

/-- A request goes out on a channel where no other is out. -/
lemma settled_of_asked {e : Event} {s : Nat} {id : Uuid} (hp : Custody p)
    (hk : Kept config log p) (h : p.note? e = some (.asked s id)) : Log.Settled s log := by
  cases noted_of_note h with
  | session t x event note hx hn =>
    cases hn with
    | asked _ script ha =>
      have hs := (hk s x hx).2
      rw [Session.role_of_serving (hp.admits s x hx) (by rw [ha]; rfl)] at hs
      exact hs.claiming id script ha

lemma sum_range_le {f g : Nat → Nat} {n : Nat} (h : ∀ s < n, f s ≤ g s + 1) :
    ((List.range n).map f).sum ≤ n + ((List.range n).map g).sum := by
  induction n with
  | zero => simp
  | succ n ih =>
    have hlast := h n (by omega)
    have hrest := ih fun s hs => h s (by omega)
    rw [List.range_succ, List.map_append, List.map_append, List.sum_append, List.sum_append]
    simp only [List.map_cons, List.map_nil, List.sum_cons, List.sum_nil]
    omega

/-- Whatever callers, clock and server do: when a session becomes idle again, its last request has
been ended by a frame, was not taken by the channel, or was broken off by an error that leaves the
channel open; then, and when a request goes out, a request on the channel is without an answer
exactly if such an error has broken one off; and at most one more request is out on each channel. -/
theorem unanswered_iff_broken (h : History config start log p) :
    (∀ (before : List Note) (i s : Nat), before ++ [.returned i s] <+: log →
      (∃ id, Log.lastAsked? s before = some id ∧
        (Log.latest? s before = some (.answered s id) ∨
          Log.latest? s before = some (.unsent s id) ∨
          Log.latest? s before = some (.broken s id))) ∧
      (Log.unanswered s before = [] ↔ Log.broken s before = [])) ∧
    (∀ (before : List Note) (s : Nat) (id : Uuid), before ++ [.asked s id] <+: log →
      (Log.unanswered s before = [] ↔ Log.broken s before = [])) ∧
    (∀ s < config.poolSize, (Log.unanswered s log).length ≤ (Log.broken s log).length + 1) ∧
    ((List.range config.poolSize).map fun s => (Log.unanswered s log).length).sum ≤
      config.poolSize +
        ((List.range config.poolSize).map fun s => (Log.broken s log).length).sum := by
  have hone : ∀ s < config.poolSize,
      (Log.unanswered s log).length ≤ (Log.broken s log).length + 1 := by
    intro s hs
    have hlt : s < p.sessions.size := by
      rwa [(custody_of_history h).size, config_of_history h]
    exact (kept_of_history h s _ (Array.getElem?_eq_getElem hlt)).1.length_le
  refine ⟨?_, ?_, hone, sum_range_le hone⟩
  · intro before i s hpre
    have hreturned := forall_notes h
      (P := fun log note => ∀ i s, note = .returned i s → Log.Resolved s log)
      (fun log p e note hlog hn i s heq =>
        resolved_of_returned (custody_of_history hlog) (kept_of_history hlog) (heq ▸ hn))
      before _ hpre i s rfl
    exact ⟨hreturned.2, hreturned.1.unanswered_eq_nil_iff⟩
  · intro before s id hpre
    have hasked := forall_notes h
      (P := fun log note => ∀ s id, note = .asked s id → Log.Settled s log)
      (fun log p e note hlog hn s id heq =>
        settled_of_asked (custody_of_history hlog) (kept_of_history hlog) (heq ▸ hn))
      before _ hpre s id rfl
    exact hasked.unanswered_eq_nil_iff

/-- Two requests on one session: the first is broken off while its answer is read, and the second
goes out. -/
def overtakingRun : List Event :=
  [.session 0 (.opened true), .connected, .arrive "g.V()" (.ofMillis 50), .call 0, .call 0, .call 0,
    .call 0, .call 0, .begin 0 ⟨1⟩, .session 0 .claim, .session 0 (.sent none),
    .session 0 (.received (.error (.serialization "bad"))), .task 0, .task 0, .task 0, .task 0,
    .arrive "g.E()" (.ofMillis 50), .call 1, .call 1, .call 1, .call 1, .call 1, .begin 1 ⟨2⟩,
    .session 0 .claim]

theorem unanswered_twice_on_one_channel :
    ∃ p, (Pool.opening { poolSize := 1 } (.ofMillis 0)).run? overtakingRun = some p ∧
      let log := (Pool.opening { poolSize := 1 } (.ofMillis 0)).notes overtakingRun
      Log.unanswered 0 log = [⟨2⟩, ⟨1⟩] ∧ Log.broken 0 log = [⟨1⟩] ∧
        (Log.unanswered 0 log).length ≤ (Log.broken 0 log).length + 1 := by
  have hrun : ((Pool.opening { poolSize := 1 } (.ofMillis 0)).run? overtakingRun).isSome = true := by
    decide +kernel
  obtain ⟨p, hp⟩ := Option.isSome_iff_exists.1 hrun
  have hpool := unanswered_iff_broken (history_of_run .opening hp)
  exact ⟨p, hp, by decide +kernel, by decide +kernel, hpool.2.2.1 0 (by decide)⟩

end Pool

end GraphClient
