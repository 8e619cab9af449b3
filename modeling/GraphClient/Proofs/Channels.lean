import GraphClient.Proofs.History

/-!
# Channels over the course of a pool

Every event of a pool from one moment to another, and how often in that course the channel of a
session was opened and how often it was closed. A session opens its channel once at most, and the
first one who has to end it closes it.
-/

namespace GraphClient

namespace Activity

/-- The channel is being closed. -/
def isClosing : Activity → Bool
  | closingAfter _ | closing => true
  | _ => false

lemma not_closing_of_conversation {a : Activity} {c : Conversation}
    (h : a.conversation? = some c) : a.isClosing = false := by
  cases a <;> simp_all [conversation?, isClosing]

end Activity

namespace Session

/-- The channel of the session is there from this event on. -/
def Event.opensChannel : Event → Bool
  | opened success => success
  | _ => false

/-- The channel of the session is told to close. -/
def closesChannel (x y : Session) : Bool := !x.activity.isClosing && y.activity.isClosing

/-- The channel of a session that was opened and closed so many times. -/
structure Channelled (opened closed : Nat) (x : Session) : Prop where
  balance : closed + x.hasChannel.toNat = opened
  once : opened ≤ 1
  early : x.activity.stage = .opening → opened = 0
  inUse : ∀ c, x.activity.conversation? = some c → x.hasChannel = true

section Steps

variable {config : ClientConfig} {now : Instant} {x y : Session} {e : Event} {opened closed : Nat}

/-- A step that leaves the channel alone. -/
lemma Channelled.same (h : Channelled opened closed x) (hc : y.hasChannel = x.hasChannel)
    (hcl : y.activity.isClosing = true → x.activity.isClosing = true)
    (ho : y.activity.stage = .opening → x.activity.stage = .opening)
    (hu : ∀ c, y.activity.conversation? = some c → y.hasChannel = true) :
    Channelled opened (closed + (x.closesChannel y).toNat) y := by
  have hno : x.closesChannel y = false := by
    rw [closesChannel, Bool.and_eq_false_iff]
    cases hy : y.activity.isClosing with
    | false => exact .inr rfl
    | true => exact .inl (by rw [hcl hy]; rfl)
  rw [hno]
  exact ⟨by rw [hc]; exact h.balance, h.once, fun hy => h.early (ho hy), hu⟩

/-- A step that closes the channel that there was. -/
lemma Channelled.close (h : Channelled opened closed x) (hx : x.hasChannel = true)
    (hy : y.hasChannel = false) (hcl : x.activity.isClosing = false)
    (hcl' : y.activity.isClosing = true) :
    Channelled opened (closed + (x.closesChannel y).toNat) y := by
  have hyes : x.closesChannel y = true := by rw [closesChannel, hcl, hcl']; rfl
  have hbalance := h.balance
  rw [hx] at hbalance
  rw [hyes]
  refine ⟨by rw [hy]; exact hbalance, h.once, fun ho => ?_, fun c hc => ?_⟩
  · cases ha : y.activity <;> simp_all [Activity.isClosing, Activity.stage]
  · rw [Activity.not_closing_of_conversation hc] at hcl'
    cases hcl'

lemma Channelled.conclude (h : Channelled opened closed x) {c : Conversation}
    (hc : x.activity.conversation? = some c) (state : SessionState) (outcome : Outcome) :
    Channelled opened (closed + (x.closesChannel ({ x with state }.conclude outcome)).toNat)
      ({ x with state }.conclude outcome) := by
  unfold Session.conclude
  split
  · split
    · exact h.close (h.inUse c hc) rfl (Activity.not_closing_of_conversation hc) rfl
    · exact h.same rfl nofun nofun nofun
  · exact h.same rfl nofun nofun nofun

lemma Channelled.talk (h : Channelled opened closed x) {c c' : Conversation}
    (hc : x.activity.conversation? = some c) (hy : y.activity.conversation? = some c')
    (hsame : y.hasChannel = x.hasChannel) :
    Channelled opened (closed + (x.closesChannel y).toNat) y := by
  refine h.same hsame (fun hcl => ?_) (fun ho => ?_) fun _ _ => hsame.trans (h.inUse c hc)
  · rw [Activity.not_closing_of_conversation hy] at hcl
    cases hcl
  · rw [Activity.stage_of_conversation hy] at ho
    cases ho

lemma Channelled.onFrame (h : Channelled opened closed x) {c : Conversation}
    (hc : x.activity = .receiving c) (frame : Response) :
    Channelled opened (closed + (x.closesChannel (x.onFrame config c frame)).toNat)
      (x.onFrame config c frame) := by
  have hconv : x.activity.conversation? = some c := by rw [hc]; rfl
  unfold Session.onFrame
  dsimp only
  split
  · exact h.talk hconv rfl rfl
  · exact h.conclude hconv _ _
  · exact h.conclude hconv _ _
  · split
    · exact h.conclude hconv x.state _
    · exact h.talk hconv rfl rfl

lemma Channelled.onReceived (h : Channelled opened closed x) {c : Conversation}
    (hc : x.activity = .receiving c) (result : Except TransportError (Option Message)) :
    Channelled opened (closed + (x.closesChannel (x.onReceived config c result)).toNat)
      (x.onReceived config c result) := by
  have hconv : x.activity.conversation? = some c := by rw [hc]; rfl
  have hpayload (payload) : Channelled opened
      (closed + (x.closesChannel (x.onPayload config c payload)).toNat)
      (x.onPayload config c payload) := by
    unfold onPayload
    split
    · exact h.onFrame hc _
    · exact h.conclude hconv x.state _
  unfold Session.onReceived
  split
  · exact h.conclude hconv x.state _
  · exact h.conclude hconv x.state _
  · unfold onMessage
    split
    · exact hpayload _
    · exact hpayload _
    · exact h.talk hconv rfl rfl
    · exact h.talk hconv rfl rfl
    · exact h.conclude hconv x.state _

/-- What a session does by itself opens its channel once at most, and closes it at most once after
that. -/
lemma Channelled.proceeds (h : Channelled opened closed x) (hstep : x.Proceeds config now e y) :
    Channelled (opened + e.opensChannel.toNat) (closed + (x.closesChannel y).toNat) y := by
  -- a session whose channel is being opened has none
  have hfresh {d : Instant} (hx : x.activity = .opening d) :
      opened = 0 ∧ closed = 0 ∧ x.hasChannel = false := by
    have hzero := h.early (by rw [hx]; rfl)
    have hbalance := h.balance
    rw [hzero] at hbalance
    refine ⟨hzero, by omega, ?_⟩
    cases hb : x.hasChannel with
    | false => rfl
    | true => rw [hb] at hbalance; simp at hbalance
  cases hstep with
  | opened d success hx =>
    obtain ⟨rfl, rfl, -⟩ := hfresh hx
    have hno : x.closesChannel (x.started config now success) = false := by
      rw [closesChannel, Bool.and_eq_false_iff]
      exact .inr rfl
    rw [hno]
    cases success <;> exact ⟨rfl, by decide, nofun, nofun⟩
  | openExpired d hx =>
    exact h.same (hfresh hx).2.2.symm nofun nofun nofun
  | claimRequest id script hx hk hc => exact h.same rfl nofun nofun fun _ _ => hc
  | claimNothing | claimEnded | closedAfter | closedEnd => exact h.same rfl nofun nofun nofun
  | claimEnd hx hk hc => exact h.close hc rfl (by rw [hx]; rfl) rfl
  | sentRequest c hx | sentPong c _ hx | sentAnswer c _ hx =>
    exact h.talk (c := c) (by rw [hx]; rfl) rfl rfl
  | sendFailed c e hx =>
    exact h.conclude (Activity.conversation_of_sending hx) x.state _
  | received c result hx => exact h.onReceived hx result
  | keepalive e k he =>
    have hno : e.opensChannel = false := by
      rcases he with rfl | rfl | rfl <;> rfl
    rw [hno]
    exact h.same rfl (fun hy => hy) (fun hy => hy) h.inUse

end Steps

end Session

lemma countP_concat {α : Type} (f : α → Bool) (l : List α) (a : α) :
    (l ++ [a]).countP f = l.countP f + (f a).toNat := by
  rw [List.countP_append, List.countP_singleton]
  cases f a <;> rfl

/-- An event, with the pool before it and after it. -/
structure Happening where
  before : Pool
  event : Pool.Event
  after : Pool

namespace Happening

def note? (h : Happening) : Option Note := h.before.note? h.event

/-- The channel of a session is there from this event on. -/
def opensChannel (s : Nat) (h : Happening) : Bool :=
  match h.event with
  | .session t e => t = s ∧ e.opensChannel
  | _ => false

/-- The channel of a session is told to close. -/
def closesChannel (s : Nat) (h : Happening) : Bool :=
  match h.before.sessions[s]?, h.after.sessions[s]? with
  | some x, some y => x.closesChannel y
  | _, _ => false

end Happening

namespace Pool

/-- Everything that happens from one pool to a later one, in order. Time may pass in between. -/
inductive Course (p : Pool) : List Happening → Pool → Prop
  | start : Course p [] p
  | act {path : List Happening} {q r : Pool} {e : Event} (h : Course p path q)
      (he : q.act? e = some r) : Course p (path ++ [⟨q, e, r⟩]) r
  | wait {path : List Happening} {q : Pool} {later : Instant} (h : Course p path q)
      (hl : q.now ≤ later) : Course p path { q with now := later }

/-- The events of a run on the virtual clock, each with its pools. -/
def happenings (p : Pool) : List Event → List Happening
  | [] => []
  | e :: events =>
    match p.step? e, p.act? e with
    | some q, some _ => ⟨p, e, q⟩ :: q.happenings events
    | some q, none => q.happenings events
    | none, _ => []

variable {config : ClientConfig} {start : Instant} {log : List Note} {p q r : Pool}
variable {path after : List Happening}

lemma Course.trans (h : Course p path q) (h' : Course q after r) :
    Course p (path ++ after) r := by
  induction h' with
  | start => rwa [List.append_nil]
  | act _ he ih =>
    rw [← List.append_assoc]
    exact .act ih he
  | wait _ hl ih => exact .wait ih hl

lemma course_of_run {events : List Event} (h : p.run? events = some q) :
    Course p (p.happenings events) q := by
  induction events generalizing p with
  | nil =>
    cases h
    exact .start
  | cons e events ih =>
    obtain ⟨r, hr, h⟩ := Option.bind_eq_some_iff.1 h
    have hnext := ih h
    rw [happenings, hr]
    cases e with
    | advance later =>
      have hr' := hr
      simp only [step?] at hr'
      split at hr'
      · rename_i hl
        cases hr'
        exact (Course.wait .start (Nat.le_of_lt hl.1)).trans hnext
      · cases hr'
    | _ =>
      have hact := hr
      simp only [step?] at hact
      rw [hact]
      exact (Course.act .start hact).trans hnext

/-- A history goes on with what is noted in the course that follows. -/
lemma history_of_course (hp : History config start log p) (h : Course p path q) :
    History config start (log ++ path.filterMap Happening.note?) q := by
  induction h with
  | start => rwa [List.filterMap_nil, List.append_nil]
  | @act path q r e _ he ih =>
    have hnote : List.filterMap Happening.note? [⟨q, e, r⟩] = (q.note? e).toList := by
      rw [List.filterMap_cons, Happening.note?]
      cases q.note? e <;> rfl
    rw [List.filterMap_append, ← List.append_assoc, hnote]
    exact .act ih he
  | wait _ hl ih => exact .wait ih hl

lemma history_of_opening (h : Course (Pool.opening config start) path p) :
    History config start (path.filterMap Happening.note?) p := history_of_course .opening h

/-- What a move does to a session: it goes on by itself, its user takes it on, or it stays. -/
lemma session_of_move {e : Event} {s : Nat} {x : Session} (hp : Custody p) (h : Move p e q)
    (hx : p.sessions[s]? = some x) : ∃ y, q.sessions[s]? = some y ∧
      ((∃ event, e = .session s event ∧ x.Proceeds p.config p.now event y) ∨
        ((∀ event, e ≠ .session s event) ∧ (y = x ∨ ∃ r', Turn (p.role s) x r' y))) := by
  have hset (t : Nat) (y : Session) (hq : q.sessions = p.sessions.setIfInBounds t y) (hst : t ≠ s) :
      q.sessions[s]? = some x := by
    rw [hq, Array.getElem?_setIfInBounds_ne hst, hx]
  have hlt : s < p.sessions.size := (Array.getElem?_eq_some_iff.1 hx).1
  rcases proceeds_or_shift hp h with ⟨t, event, x', y, rfl, hx', hxy, rfl⟩ | ⟨hno, hshift⟩
  · by_cases hst : t = s
    · subst hst
      rw [hx] at hx'
      cases hx'
      exact ⟨y, Array.getElem?_setIfInBounds_self_of_lt hlt, .inl ⟨event, rfl, hxy⟩⟩
    · refine ⟨x, hset t y rfl hst, .inr ⟨fun event' he => ?_, .inl rfl⟩⟩
      cases he
      exact hst rfl
  · cases hshift with
    | keep _ hs => exact ⟨x, by rw [hs, hx], .inr ⟨hno s, .inl rfl⟩⟩
    | turn t x' y r r' hx' hs hr _ _ ht =>
      by_cases hst : t = s
      · subst hst
        rw [hx] at hx'
        cases hx'
        refine ⟨y, ?_, .inr ⟨hno t, .inr ⟨r', hr ▸ ht⟩⟩⟩
        rw [hs, Array.getElem?_setIfInBounds_self_of_lt hlt]
      · exact ⟨x, hset t y hs hst, .inr ⟨hno s, .inl rfl⟩⟩

lemma Turn.channelled {r r' : Option Role} {x y : Session} {opened closed : Nat}
    (h : Turn r x r' y) (hx : x.Channelled opened closed) :
    y.Channelled opened (closed + (x.closesChannel y).toNat) := by
  cases h with
  | putBack => exact hx.same rfl id id hx.inUse
  | _ => exact hx.same rfl nofun nofun nofun

lemma opensChannel_of_not_session {e : Event} {s : Nat} (h : ∀ event, e ≠ .session s event) :
    Happening.opensChannel s ⟨p, e, q⟩ = false := by
  rw [Happening.opensChannel]
  split
  · rename_i t event he
    have hts : t ≠ s := by
      rintro rfl
      exact h event he
    simp [hts]
  · rfl

/-- An event opens and closes the channel of a session as often as it is seen to. -/
lemma channelled_of_act {e : Event} {s : Nat} {y : Session} {opened closed : Nat}
    (hp : Custody p) (he : p.act? e = some q) (hy : q.sessions[s]? = some y)
    (hold : ∀ x, p.sessions[s]? = some x → x.Channelled opened closed) :
    y.Channelled (opened + (Happening.opensChannel s ⟨p, e, q⟩).toNat)
      (closed + (Happening.closesChannel s ⟨p, e, q⟩).toNat) := by
  have hmove := move_of_act he
  have hlt : s < p.sessions.size := by
    have hsize := (Array.getElem?_eq_some_iff.1 hy).1
    rwa [(custody_of_move hp hmove).size, config_of_move hmove, ← hp.size] at hsize
  have hx : p.sessions[s]? = some p.sessions[s] := Array.getElem?_eq_getElem hlt
  obtain ⟨y', hy', hstep⟩ := session_of_move hp hmove hx
  rw [hy] at hy'
  cases hy'
  have hcloses : Happening.closesChannel s ⟨p, e, q⟩ = p.sessions[s].closesChannel y := by
    rw [Happening.closesChannel]
    dsimp only
    rw [hx, hy]
  rw [hcloses]
  rcases hstep with ⟨event, rfl, hxy⟩ | ⟨hno, hsame⟩
  · have hopens : Happening.opensChannel s ⟨p, .session s event, q⟩ = event.opensChannel := by
      simp [Happening.opensChannel]
    rw [hopens]
    exact (hold _ hx).proceeds hxy
  · rw [opensChannel_of_not_session hno]
    rcases hsame with rfl | ⟨r', ht⟩
    · exact (hold _ hx).same rfl id id (hold _ hx).inUse
    · exact ht.channelled (hold _ hx)

/-- How often the channel of a session was opened and closed since the pool was opened. -/
lemma channelled_of_course (h : Course (Pool.opening config start) path p) :
    ∀ (s : Nat) (x : Session), p.sessions[s]? = some x →
      x.Channelled (path.countP (Happening.opensChannel s))
        (path.countP (Happening.closesChannel s)) := by
  induction h with
  | start =>
    intro s x hx
    simp [Pool.opening] at hx
    obtain ⟨_, -, rfl⟩ := hx
    exact ⟨rfl, Nat.zero_le 1, fun _ => rfl, fun _ hc => by cases hc⟩
  | act hq he ih =>
    intro s y hy
    rw [countP_concat, countP_concat]
    exact channelled_of_act (custody_of_history (history_of_opening hq)) he hy (ih s)
  | wait _ _ ih => exact ih

end Pool

end GraphClient
