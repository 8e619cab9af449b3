import GraphClient.Proofs.Ledger

/-!
# The drain deadline

A request that got a session gives it back by its drain deadline, and time does not pass before it
has. The one thing that it may wait for beyond that is the channel of the session: a close that is
not over, or a ping that the keepalive is still sending.
-/

namespace GraphClient

namespace Instant

variable {t u : Instant} {d : Duration}

lemma le_deadlineAfter : t ≤ t.deadlineAfter d := by
  unfold deadlineAfter add?
  split
  · exact Nat.le_add_right t.nanos d.nanos
  · exact Nat.le_add_right t.nanos farFuture.nanos

lemma deadlineAfter_of_add (h : t.add? d = some u) : t.deadlineAfter d = u := by
  rw [deadlineAfter, h]
  rfl

lemma le_ofMillis_ceilMillis : t ≤ ofMillis t.ceilMillis := by
  change t.nanos ≤ (t.nanos + 999999) / 1000000 * 1000000
  omega

lemma ofMillis_ceilMillis_mono (h : t ≤ u) : ofMillis t.ceilMillis ≤ ofMillis u.ceilMillis := by
  change t.nanos ≤ u.nanos at h
  change (t.nanos + 999999) / 1000000 * 1000000 ≤ (u.nanos + 999999) / 1000000 * 1000000
  omega

lemma le_trans {v : Instant} (h : t ≤ u) (h' : u ≤ v) : t ≤ v := Nat.le_trans h h'

end Instant

namespace Session

variable {config : ClientConfig} {now : Instant} {x y : Session} {e : Event}

/-- The session waits for its channel to be closed, or to be free of a ping that is going out. -/
def AwaitsChannel (x : Session) : Prop :=
  x.activity = .closing ∨ (x.activity = .claimingEnd ∧ x.keepalive.isPinging = true)

lemma Proceeds.not_opening (h : x.Proceeds config now e y) (hx : x.activity.stage ≠ .opening) :
    y.activity.stage ≠ .opening := by
  cases h with
  | opened | openExpired | claimRequest | claimNothing | claimEnd | claimEnded | sentRequest
  | sentPong | sentAnswer | closedAfter | closedEnd => nofun
  | sendFailed =>
    rw [conclude_stage]
    nofun
  | received =>
    rw [onReceived_stage]
    nofun
  | keepalive => exact hx

end Session

namespace Pool

variable {config : ClientConfig} {start : Instant} {log : List Note} {p q : Pool}

/-- Nobody calls before the sessions have been opened or given up. -/
structure Ready (p : Pool) : Prop where
  waits : p.ready = false → p.calls = #[]
  opened : p.ready = true → ∀ (s : Nat) (x : Session), p.sessions[s]? = some x →
    x.activity.stage ≠ .opening

lemma Turn.not_opening {r r' : Option Role} {x y : Session} (h : Turn r x r' y)
    (hx : x.activity.stage ≠ .opening) : y.activity.stage ≠ .opening := by
  cases h with
  | putBack => exact hx
  | _ => nofun

lemma waits_of_move {e : Event} (hw : p.ready = false → p.calls = #[]) (h : Move p e q) :
    q.ready = false → q.calls = #[] := by
  intro hq
  cases h with
  | connected => cases hq
  | arrive _ _ hr =>
    change p.ready = false at hq
    rw [hr] at hq
    cases hq
  | enter _ _ hc | turnAway _ _ hc | refuse _ _ hc | ask _ _ hc | giveUp _ _ hc | permit _ _ hc
  | miss _ _ hc | take _ _ _ _ hc | lend _ _ _ hc | deliver _ _ _ hc | expireWaiting _ _ hc
  | expireRunning _ _ hc | abandonWaiting _ _ hc | abandonEarly _ _ hc | abandonRunning _ _ hc
  | begin _ _ _ _ _ hc | settle _ _ _ _ _ hc | lapse _ _ _ _ hc | uncount _ _ _ _ hc
  | putBack _ _ _ _ _ hc | reject _ _ _ _ _ hc | repay _ _ _ hc | drop _ _ _ _ _ hc
  | sealUp _ _ _ hc | drain _ _ _ _ hc =>
    rw [hw hq] at hc
    simp at hc
  | close | shut | lock | allClosed | endNext | endOne | session => exact hw hq

lemma not_opening_of_connected (h : Move p .connected q) :
    ∀ (s : Nat) (x : Session), q.sessions[s]? = some x → x.activity.stage ≠ .opening := by
  cases h with
  | connected hr ho =>
    intro s x hx
    have hno := ho x (Array.mem_of_getElem? hx)
    cases ha : x.activity with
    | opening d =>
      rw [ha] at hno
      cases hno
    | _ => nofun

lemma ready_of_move {e : Event} (h : Move p e q) (he : e ≠ .connected) : q.ready = p.ready := by
  cases h with
  | connected => exact absurd rfl he
  | _ => rfl

lemma opened_of_move {e : Event} (hp : Custody p) (hr : Ready p) (h : Move p e q) :
    q.ready = true → ∀ (s : Nat) (x : Session), q.sessions[s]? = some x →
      x.activity.stage ≠ .opening := by
  intro hq
  by_cases he : e = .connected
  · subst he
    exact not_opening_of_connected h
  · rw [ready_of_move h he] at hq
    have hold := hr.opened hq
    rcases proceeds_or_shift hp h with ⟨s, event, x, y, -, hx, hxy, rfl⟩ | ⟨-, hshift⟩
    · exact forall_setIfInBounds hold (hxy.not_opening (hold s x hx))
    · cases hshift with
      | keep _ hs =>
        rw [hs]
        exact hold
      | turn s x y r r' hx hs _ _ _ ht =>
        rw [hs]
        exact forall_setIfInBounds hold (ht.not_opening (hold s x hx))

theorem ready_of_history (h : History config start log p) : Ready p := by
  induction h with
  | opening => exact ⟨fun _ => rfl, nofun⟩
  | act h he ih =>
    have hmove := move_of_act he
    exact ⟨waits_of_move ih.waits hmove, opened_of_move (custody_of_history h) ih hmove⟩
  | wait _ _ ih => exact ⟨ih.waits, ih.opened⟩

/-- The steps with which the task of a call and its session go on by themselves. -/
def ownSteps (i s : Nat) : List Event :=
  [.begin i Uuid.nil, .task i, .drain i, .session s .claim]

section Steps

variable {i s : Nat} {c : Call} {x : Session}

lemma act_begin (hc : p.calls[i]? = some c) (ht : c.task = .spawned s)
    (hx : p.sessions[s]? = some x) (ha : x.activity = .resting) :
    (p.act? (.begin i Uuid.nil)).isSome = true := by
  simp [act?, begin?, hc, ht, sessionStep?, hx, Session.step?, ha]

lemma act_settle {outcome : Outcome} (hc : p.calls[i]? = some c) (ht : c.task = .submitting s)
    (hx : p.sessions[s]? = some x) (ha : x.activity = .finished outcome) :
    (p.act? (.task i)).isSome = true := by
  simp [act?, taskStep?, hc, ht, outcome?, sessionStep?, hx, Session.step?, ha,
    Activity.outcome?]

lemma act_drain (hc : p.calls[i]? = some c) (ht : c.task = .submitting s)
    (hd : c.drainDeadline ≤ p.now) (hx : p.sessions[s]? = some x)
    (ha : x.activity.isRequest = true) (hk : p.sessionStep? s .claim = none) :
    (p.act? (.drain i)).isSome = true := by
  have hlate : ¬p.now < c.drainDeadline := Nat.not_lt_of_le hd
  have hnone : p.outcome? s = none := by
    rw [outcome?, hx, Option.bind_some]
    cases hact : x.activity with
    | finished outcome =>
      rw [hact] at ha
      cases ha
    | _ => rfl
  have hlt : s < p.sessions.size := (Array.getElem?_eq_some_iff.1 hx).1
  have hcancel := sessionStep_of_step (y := { x with activity := .resting }) (e := .cancel) hx
    (if_pos ha)
  have hrest : (p.setSession s { x with activity := .resting }).sessions[s]? =
      some { x with activity := .resting } := by
    rw [setSession_sessions, Array.getElem?_setIfInBounds_self_of_lt hlt]
  have hend := sessionStep_of_step (e := .disconnect) hrest rfl
  simp [act?, drain?, hc, ht, hlate, hnone, hk, hcancel, hend]

lemma act_lapse (hc : p.calls[i]? = some c) (ht : c.task = .expiring s)
    (hx : p.sessions[s]? = some x) (ha : x.activity = .ended) :
    (p.act? (.task i)).isSome = true := by
  have hended : p.hasEnded s = true := (hasEnded_iff hx).2 ha
  simp [act?, taskStep?, hc, ht, hended, sessionStep?, hx, Session.step?, ha]

lemma act_uncount {outcome : Outcome} (hc : p.calls[i]? = some c)
    (ht : c.task = .releasing s outcome) : (p.act? (.task i)).isSome = true := by
  simp [act?, taskStep?, hc, ht]

lemma act_place {outcome : Outcome} (hc : p.calls[i]? = some c) (ht : c.task = .placing s outcome)
    (hx : p.sessions[s]? = some x) (ha : x.activity = .resting) :
    (p.act? (.task i)).isSome = true := by
  simp only [act?, taskStep?, hc, Option.bind_eq_bind, Option.bind_some, ht, place?, hx]
  split
  · rfl
  · simp [sessionStep?, hx, Session.step?, ha]

lemma act_drop {outcome : Outcome} (hc : p.calls[i]? = some c) (ht : c.task = .discarding s outcome)
    (hx : p.sessions[s]? = some x) (ha : x.activity = .ended) :
    (p.act? (.task i)).isSome = true := by
  have hended : p.hasEnded s = true := (hasEnded_iff hx).2 ha
  simp [act?, taskStep?, hc, ht, hended, sessionStep?, hx, Session.step?, ha]

lemma act_claim (hx : p.sessions[s]? = some x) (ha : x.activity = .claimingEnd)
    (hk : x.keepalive.isPinging = false) : (p.act? (.session s .claim)).isSome = true := by
  obtain ⟨y, hy⟩ : ∃ y, x.step? p.config p.now .claim = some y := by
    simp only [Session.step?, hk, Session.claim?, ha]
    cases x.hasChannel with
    | false => exact ⟨_, rfl⟩
    | true => exact ⟨_, rfl⟩
  simp [act?, isOwnEvent, sessionStep_of_step hx hy]

/-- A session that is being disconnected waits for its channel, or can be taken note of. -/
lemma ending_goes_on (hx : p.sessions[s]? = some x) (he : x.IsEnding)
    (hended : x.activity = .ended → (p.act? (.task i)).isSome = true) :
    x.AwaitsChannel ∨ ∃ e ∈ ownSteps i s, (p.act? e).isSome = true := by
  rcases he with ha | ⟨ha, -⟩ | ⟨ha, -⟩
  · cases hk : x.keepalive.isPinging with
    | false => exact .inr ⟨.session s .claim, by simp [ownSteps], act_claim hx ha hk⟩
    | true => exact .inl (.inr ⟨ha, hk⟩)
  · exact .inl (.inl ha)
  · exact .inr ⟨.task i, by simp [ownSteps], hended ha⟩

lemma admits_of_role (hp : Custody p) {r : Role} (hrole : p.role s = some r) :
    ∃ x, p.sessions[s]? = some x ∧ Role.Admits (some r) x := by
  have hlt : s < p.sessions.size := by
    rw [hp.size]
    exact hp.bound (s, r) ((role_eq_some_iff hp.nodup).1 hrole)
  have hx : p.sessions[s]? = some p.sessions[s] := Array.getElem?_eq_getElem hlt
  have hadmits := hp.admits s _ hx
  rw [hrole] at hadmits
  exact ⟨_, hx, hadmits⟩

lemma not_opening_of_call (hr : Ready p) (hc : p.calls[i]? = some c)
    (hx : p.sessions[s]? = some x) : x.activity.stage ≠ .opening := by
  cases hready : p.ready with
  | false =>
    rw [hr.waits hready] at hc
    simp at hc
  | true => exact hr.opened hready s x hx

/-- Past its drain deadline, the session of a call waits for its channel only. -/
theorem goes_on_past_deadline (hp : Custody p) (hr : Ready p) (hc : p.calls[i]? = some c)
    (hs : c.task.session? = some s) (hd : c.drainDeadline ≤ p.now) :
    ∃ x, p.sessions[s]? = some x ∧
      (x.AwaitsChannel ∨ ∃ e ∈ ownSteps i s, (p.act? e).isSome = true) := by
  have hrole (r : Role) (ht : c.task.holdings = [(s, r)]) : p.role s = some r :=
    role_of_task hp hc (by rw [ht]; exact List.mem_singleton_self _)
  cases ht : c.task with
  | none | permitting | sealing | finished =>
    rw [ht] at hs
    cases hs
  | spawned t =>
    rw [ht] at hs
    cases hs
    obtain ⟨x, hx, ho | ha⟩ := admits_of_role hp (hrole .spare (by rw [ht]; rfl))
    · exact absurd ho (not_opening_of_call hr hc hx)
    · exact ⟨x, hx, .inr ⟨.begin i Uuid.nil, by simp [ownSteps], act_begin hc ht hx ha⟩⟩
  | submitting t =>
    rw [ht] at hs
    cases hs
    obtain ⟨x, hx, hstage⟩ := admits_of_role hp (hrole .serving (by rw [ht]; rfl))
    refine ⟨x, hx, .inr ?_⟩
    rcases Activity.isRequest_or_finished hstage with ha | ⟨outcome, ha⟩
    · cases hk : p.sessionStep? s .claim with
      | none => exact ⟨.drain i, by simp [ownSteps], act_drain hc ht hd hx ha hk⟩
      | some q =>
        exact ⟨.session s .claim, by simp [ownSteps], by simp [act?, isOwnEvent, hk]⟩
    · exact ⟨.task i, by simp [ownSteps], act_settle hc ht hx ha⟩
  | expiring t =>
    rw [ht] at hs
    cases hs
    obtain ⟨x, hx, he⟩ := admits_of_role hp (hrole .ending (by rw [ht]; rfl))
    exact ⟨x, hx, ending_goes_on hx he fun ha => act_lapse hc ht hx ha⟩
  | releasing t outcome =>
    rw [ht] at hs
    cases hs
    obtain ⟨x, hx, -⟩ := admits_of_role hp (hrole .served (by rw [ht]; rfl))
    exact ⟨x, hx, .inr ⟨.task i, by simp [ownSteps], act_uncount hc ht⟩⟩
  | placing t outcome =>
    rw [ht] at hs
    cases hs
    obtain ⟨x, hx, ha⟩ := admits_of_role hp (hrole .served (by rw [ht]; rfl))
    exact ⟨x, hx, .inr ⟨.task i, by simp [ownSteps], act_place hc ht hx ha⟩⟩
  | discarding t outcome =>
    rw [ht] at hs
    cases hs
    obtain ⟨x, hx, he⟩ := admits_of_role hp (hrole .ending (by rw [ht]; rfl))
    exact ⟨x, hx, ending_goes_on hx he fun ha => act_drop hc ht hx ha⟩

end Steps

section Quiet

variable {i s : Nat} {c : Call}

lemma act_eq_none_of_quiet (hq : p.isQuiet = true) {e : Event}
    (he : e ∈ p.internalEvents ++ p.timerEvents) : p.act? e = none := by
  have hall := List.all_eq_true.1 hq e he
  simpa using hall

/-- In a quiet pool neither a call nor its task nor its session can go on by itself. -/
lemma steps_eq_none_of_quiet (hq : p.isQuiet = true) (hc : i < p.calls.size)
    (hs : s < p.sessions.size) :
    ∀ e ∈ Event.call i :: ownSteps i s, p.act? e = none := by
  intro e he
  apply act_eq_none_of_quiet hq
  simp only [ownSteps, List.mem_cons, List.not_mem_nil, or_false] at he
  rcases he with rfl | rfl | rfl | rfl | rfl <;>
    simp [internalEvents, timerEvents, hc, hs]

end Quiet

/-- The clock is not beyond the whole millisecond of a deadline that a call still waits for. -/
structure Punctual (now : Instant) (c : Call) : Prop where
  order : c.deadline ≤ c.drainDeadline
  early : c.phase.isEarly = true → now ≤ .ofMillis c.deadline.ceilMillis
  out : c.task.isOut = true → now ≤ .ofMillis c.drainDeadline.ceilMillis

def Timely (p : Pool) : Prop :=
  ∀ (i : Nat) (c : Call), p.calls[i]? = some c → Punctual p.now c

lemma now_of_move {e : Event} (h : Move p e q) : q.now = p.now := by
  cases h <;> rfl

lemma isOut_of_none {task : TaskPhase} (h : task.session? = none) : task.isOut = false := by
  cases task with
  | spawned | submitting => cases h
  | _ => rfl

lemma timely_of_deal {note : Option Note} (ht : Timely p) (h : Deal p q note)
    (hn : q.now = p.now) : Timely q := by
  intro j b hb
  rw [hn]
  cases h with
  | arrive c timeout hq htask hd hdd =>
    rw [hq, Array.getElem?_push] at hb
    split at hb
    · cases hb
      refine ⟨?_, ?_, ?_⟩
      · rw [hdd]
        exact Instant.le_deadlineAfter
      · intro _
        rw [hd]
        exact Instant.le_trans Instant.le_deadlineAfter Instant.le_ofMillis_ceilMillis
      · intro ho
        rw [htask] at ho
        cases ho
    · exact ht j b hb
  | phase i c phase hc hq he =>
    rcases call_of_set hq hb with ⟨rfl, rfl⟩ | ⟨-, hb⟩
    · have hold := ht j c hc
      exact ⟨hold.order, fun h => hold.early (he h), hold.out⟩
    · exact ht j b hb
  | lend i c s hc _ he hq =>
    rcases call_of_set hq hb with ⟨rfl, rfl⟩ | ⟨-, hb⟩
    · have hold := ht j c hc
      refine ⟨hold.order, nofun, ?_⟩
      intro _
      exact Instant.le_trans (hold.early he) (Instant.ofMillis_ceilMillis_mono hold.order)
    · exact ht j b hb
  | task i c task hc hq _ ho =>
    rcases call_of_set hq hb with ⟨rfl, rfl⟩ | ⟨-, hb⟩
    · have hold := ht j c hc
      exact ⟨hold.order, hold.early, fun h => hold.out (ho h)⟩
    · exact ht j b hb
  | putBack i c s task hc hq _ hs | discard i c s task hc hq _ hs =>
    rcases call_of_set hq hb with ⟨rfl, rfl⟩ | ⟨-, hb⟩
    · have hold := ht j c hc
      refine ⟨hold.order, hold.early, ?_⟩
      intro h
      change task.isOut = true at h
      rw [isOut_of_none hs] at h
      cases h
    · exact ht j b hb
  | close _ hq | other _ hq =>
    rw [hq] at hb
    exact ht j b hb

/-- In a quiet pool, a caller without a session waits for its permit. -/
lemma waiting_of_quiet {i : Nat} {c : Call} (hq : p.isQuiet = true) (hc : p.calls[i]? = some c)
    (he : c.phase.isEarly = true) : c.phase = .waiting := by
  have hlt : i < p.calls.size := (Array.getElem?_eq_some_iff.1 hc).1
  have hnone : p.act? (.call i) = none :=
    act_eq_none_of_quiet hq (by simp [internalEvents, timerEvents, hlt])
  simp only [act?, callStep?, hc, Option.bind_eq_bind, Option.bind_some] at hnone
  cases hp : c.phase with
  | waiting => rfl
  | arrived | admitted =>
    rw [hp] at hnone
    dsimp only at hnone
    split at hnone <;> cases hnone
  | permitted | holding =>
    rw [hp] at hnone
    cases hnone
  | running | returned | abandoned =>
    rw [hp] at he
    cases he

/-- In a quiet pool, a task that has not ended its request has begun it. -/
lemma submitting_of_quiet {i : Nat} {c : Call} (hp : Custody p) (hr : Ready p)
    (hq : p.isQuiet = true) (hc : p.calls[i]? = some c) (ho : c.task.isOut = true) :
    ∃ s, c.task = .submitting s := by
  cases ht : c.task with
  | submitting s => exact ⟨s, rfl⟩
  | spawned s =>
    have hrole : p.role s = some .spare :=
      role_of_task hp hc (by rw [ht]; exact List.mem_singleton_self _)
    obtain ⟨x, hx, hopen | ha⟩ := admits_of_role hp hrole
    · exact absurd hopen (not_opening_of_call hr hc hx)
    · have hsome := act_begin hc ht hx ha
      have hlt : i < p.calls.size := (Array.getElem?_eq_some_iff.1 hc).1
      have hlt' : s < p.sessions.size := (Array.getElem?_eq_some_iff.1 hx).1
      rw [steps_eq_none_of_quiet hq hlt hlt' _ (by simp [ownSteps])] at hsome
      cases hsome
  | _ =>
    rw [ht] at ho
    cases ho

lemma mem_deadlines {i : Nat} {c : Call} {d : Instant} (hc : p.calls[i]? = some c)
    (hd : d ∈ callDeadlines c) : d ∈ p.deadlines := by
  have hmem : c ∈ p.calls.toList := Array.mem_toList_iff.2 (Array.mem_of_getElem? hc)
  exact List.mem_append_left _ (List.mem_flatMap.2 ⟨c, hmem, hd⟩)

lemma timely_of_advance {later : Instant} (hp : Custody p) (hr : Ready p) (ht : Timely p)
    (hq : p.isQuiet = true) (hl : p.deadlines.all (later ≤ .ofMillis ·.ceilMillis) = true) :
    Timely { p with now := later } := by
  intro i c hc
  -- whoever has not given up waits for one of the deadlines that the clock stops at
  have hbound (d : Instant) (hd : d ∈ callDeadlines c) : later ≤ .ofMillis d.ceilMillis := by
    simpa using List.all_eq_true.1 hl d (mem_deadlines hc hd)
  refine ⟨(ht i c hc).order, fun he => hbound c.deadline ?_, fun ho => hbound c.drainDeadline ?_⟩
  · rw [callDeadlines, waiting_of_quiet hq hc he]
    exact List.mem_append_left _ (List.mem_singleton_self _)
  · obtain ⟨s, hs⟩ := submitting_of_quiet hp hr hq hc ho
    rw [callDeadlines, hs]
    exact List.mem_append_right _ (List.mem_singleton_self _)

lemma timely_of_step {e : Event} (h : History config start log p) (ht : Timely p)
    (he : p.step? e = some q) : Timely q := by
  have hp := custody_of_history h
  have hact (hact : p.act? e = some q) : Timely q := by
    have hmove := move_of_act hact
    exact timely_of_deal ht (deal_of_move hp (books_of_history h) hmove) (now_of_move hmove)
  cases e with
  | advance later =>
    simp only [step?] at he
    split at he
    · rename_i hl
      cases he
      exact timely_of_advance hp (ready_of_history h) ht hl.2.1 hl.2.2
    · cases he
  | _ => exact hact he

lemma timely_opening (config : ClientConfig) (start : Instant) :
    Timely (Pool.opening config start) := by
  intro i c hc
  simp [Pool.opening] at hc

/-- On the virtual clock, no call is late with a step that it can take. -/
theorem timely_of_run {events : List Event} (h : History config start log p) (ht : Timely p)
    (hr : p.run? events = some q) : Timely q := by
  induction events generalizing log p with
  | nil =>
    cases hr
    exact ht
  | cons e events ih =>
    obtain ⟨r, he, hr⟩ := Option.bind_eq_some_iff.1 hr
    exact ih (history_of_step h he) (timely_of_step h ht he) hr

/-- A call has given back the session that it was lent: to the idle ones, or for good. -/
def HandedBack (log : List Note) (i s : Nat) : Prop :=
  .returned i s ∈ log ∨ .discarded i s ∈ log

/-- A session waits for its channel. -/
def AwaitsChannel (p : Pool) (s : Nat) : Prop :=
  ∃ x, p.sessions[s]? = some x ∧ x.AwaitsChannel

lemma handed_back_or_goes_on {i s : Nat} {c : Call} (h : History config start log p)
    (hc : p.calls[i]? = some c) (hlent : .lent i s ∈ log) (hd : c.drainDeadline ≤ p.now) :
    HandedBack log i s ∨ p.AwaitsChannel s ∨
      ∃ e ∈ ownSteps i s, (p.act? e).isSome = true := by
  rcases ((recorded_of_history h).told i c hc).back s hlent with hs | hback
  · obtain ⟨x, hx, hgo⟩ :=
      goes_on_past_deadline (custody_of_history h) (ready_of_history h) hc hs hd
    rcases hgo with hawait | hstep
    · exact .inr (.inl ⟨x, hx, hawait⟩)
    · exact .inr (.inr hstep)
  · exact .inl hback

lemma handed_back_or_awaits_of_quiet {i s : Nat} {c : Call} (h : History config start log p)
    (hc : p.calls[i]? = some c) (hlent : .lent i s ∈ log) (hd : c.drainDeadline ≤ p.now)
    (hq : p.isQuiet = true) : HandedBack log i s ∨ p.AwaitsChannel s := by
  rcases ((recorded_of_history h).told i c hc).back s hlent with hs | hback
  · obtain ⟨x, hx, hgo⟩ :=
      goes_on_past_deadline (custody_of_history h) (ready_of_history h) hc hs hd
    rcases hgo with hawait | ⟨e, he, hsome⟩
    · exact .inr ⟨x, hx, hawait⟩
    · have hi : i < p.calls.size := (Array.getElem?_eq_some_iff.1 hc).1
      have hs : s < p.sessions.size := (Array.getElem?_eq_some_iff.1 hx).1
      rw [steps_eq_none_of_quiet hq hi hs e (List.mem_cons_of_mem _ he)] at hsome
      cases hsome
  · exact .inl hback

/-- In every state of a run on the virtual clock, from the drain deadline of a request on, which is
its start plus its timeout plus the drain timeout: the request has handed its session back, or the
session waits for its channel to be closed or to be free of a ping, or its task or the session has a
step to take at this very instant. In a quiet pool, where time can pass, it is one of the first two;
and past the whole millisecond of the deadline the request itself is over. The counters tell how
many sessions were lent, handed back, discarded and closed. -/
theorem handed_back_by_drain_deadline {events : List Event}
    (h : (Pool.opening config start).run? events = some p)
    (hlog : log = (Pool.opening config start).notes events) :
    (∀ i t d s, .called i t d ∈ log → .lent i s ∈ log →
      ∃ c, p.calls[i]? = some c ∧
        (∀ u v, t.add? d = some u → u.add? config.drainTimeout = some v →
          c.drainDeadline = v) ∧
        (c.drainDeadline ≤ p.now → HandedBack log i s ∨ p.AwaitsChannel s ∨
          ∃ e ∈ ownSteps i s, (p.act? e).isSome = true) ∧
        (c.drainDeadline ≤ p.now → p.isQuiet = true →
          HandedBack log i s ∨ p.AwaitsChannel s) ∧
        (.ofMillis c.drainDeadline.ceilMillis < p.now → c.task.isOut = false)) ∧
    p.checkouts = log.countP Note.isLent ∧
    p.inUse + p.tally Call.isLeaving + log.countP Note.isReturned +
      log.countP Note.isDiscarded = log.countP Note.isLent ∧
    p.discarded = log.countP Note.isDiscarded ∧
    p.live + log.countP Note.isDiscarded + log.countP Note.isClosed = config.poolSize := by
  have hist : History config start log p := by
    rw [hlog]
    exact history_of_run .opening h
  have hacc := accounts_of_history hist
  have hconfig := config_of_history hist
  have htimely : Timely p := timely_of_run .opening (timely_opening config start) h
  refine ⟨?_, hacc.checkouts, ?_, hacc.discarded, ?_⟩
  · intro i t d s hcalled hlent
    obtain ⟨c, hc, hd, hdd⟩ := (recorded_of_history hist).called i t d hcalled
    refine ⟨c, hc, ?_, handed_back_or_goes_on hist hc hlent,
      handed_back_or_awaits_of_quiet hist hc hlent, ?_⟩
    · intro u v hu hv
      rw [hdd, hd, hconfig, Instant.deadlineAfter_of_add hu, Instant.deadlineAfter_of_add hv]
    · intro hlate
      cases ho : c.task.isOut with
      | false => rfl
      | true => exact absurd ((htimely i c hc).out ho) (Nat.not_le_of_lt hlate)
  · have hheld := hacc.held
    rw [tally_hasSession] at hheld
    rw [(books_of_history hist).inUse]
    exact hheld
  · rw [← hconfig]
    exact hacc.live

/-- One session, without pings. -/
def loneSession : ClientConfig :=
  { poolSize := 1, pingInterval := .ofMillis 0, drainTimeout := .ofMillis 10 }

/-- A call for 10 milliseconds gets the session and sends its request. -/
def sendingRun : List Event :=
  [.session 0 (.opened true), .connected, .arrive "g.V()" (.ofMillis 10), .call 0, .call 0, .call 0,
    .call 0, .call 0, .begin 0 Uuid.nil, .session 0 .claim, .session 0 (.sent none)]

/-- No answer comes, and closing the channel never ends. -/
def stuckRun : List Event :=
  sendingRun ++ [.advance (.ofMillis 10), .expire 0, .advance (.ofMillis 20), .drain 0,
    .session 0 .claim, .advance (.ofMillis 30)]

/-- The answer comes, and then the pool is closed. -/
def closedRun : List Event :=
  sendingRun ++
    [.session 0 (.received (.ok (some (.text "\x7b\"status\":\x7b\"code\":204\x7d\x7d")))), .task 0,
      .task 0, .task 0, .task 0, .call 0, .close, .closer 0, .closer 0, .closer 0,
      .session 0 .claim, .session 0 .closed, .closer 0, .closer 0, .advance (.ofMillis 30)]

/-- Past the drain deadline, a session that was handed back can be closed with its pool, which does
not count as discarding it; and one whose channel does not close stays with its request. -/
theorem neither_idle_nor_discarded_past_deadline :
    (∃ p, (Pool.opening loneSession (.ofMillis 0)).run? closedRun = some p ∧
      let log := (Pool.opening loneSession (.ofMillis 0)).notes closedRun
      .called 0 (.ofMillis 0) (.ofMillis 10) ∈ log ∧ .lent 0 0 ∈ log ∧
        .ofMillis 20 < p.now ∧ 0 ∉ p.idle ∧ .discarded 0 0 ∉ log ∧
        p.discarded = 0 ∧ p.live = 0) ∧
    (∃ p, (Pool.opening loneSession (.ofMillis 0)).run? stuckRun = some p ∧
      let log := (Pool.opening loneSession (.ofMillis 0)).notes stuckRun
      .called 0 (.ofMillis 0) (.ofMillis 10) ∈ log ∧ .lent 0 0 ∈ log ∧
        .ofMillis 20 < p.now ∧ 0 ∉ p.idle ∧ .discarded 0 0 ∉ log ∧
        p.inUse = 1 ∧ p.isQuiet = true) := by
  have hclosed : ((Pool.opening loneSession (.ofMillis 0)).run? closedRun).any (fun p =>
      .ofMillis 20 < p.now ∧ 0 ∉ p.idle ∧ p.discarded = 0 ∧ p.live = 0) = true := by
    decide +kernel
  have hstuck : ((Pool.opening loneSession (.ofMillis 0)).run? stuckRun).any (fun p =>
      .ofMillis 20 < p.now ∧ 0 ∉ p.idle ∧ p.inUse = 1 ∧ p.isQuiet) = true := by
    decide +kernel
  obtain ⟨p, hp, hstate⟩ := (Option.any_eq_true _ _).1 hclosed
  obtain ⟨q, hq, hstate'⟩ := (Option.any_eq_true _ _).1 hstuck
  obtain ⟨hnow, hidle, hdis, hlive⟩ := of_decide_eq_true hstate
  obtain ⟨hnow', hidle', huse, hquiet⟩ := of_decide_eq_true hstate'
  have hlog : .called 0 (.ofMillis 0) (.ofMillis 10) ∈
        (Pool.opening loneSession (.ofMillis 0)).notes closedRun ∧
      .lent 0 0 ∈ (Pool.opening loneSession (.ofMillis 0)).notes closedRun ∧
      .discarded 0 0 ∉ (Pool.opening loneSession (.ofMillis 0)).notes closedRun := by
    decide +kernel
  have hlog' : .called 0 (.ofMillis 0) (.ofMillis 10) ∈
        (Pool.opening loneSession (.ofMillis 0)).notes stuckRun ∧
      .lent 0 0 ∈ (Pool.opening loneSession (.ofMillis 0)).notes stuckRun ∧
      .discarded 0 0 ∉ (Pool.opening loneSession (.ofMillis 0)).notes stuckRun := by
    decide +kernel
  constructor
  · exact ⟨p, hp, hlog.1, hlog.2.1, hnow, hidle, hlog.2.2, hdis, hlive⟩
  · exact ⟨q, hq, hlog'.1, hlog'.2.1, hnow', hidle', hlog'.2.2, huse, hquiet⟩

/-- No answer comes, and the channel is closed. -/
def drainedRun : List Event :=
  sendingRun ++ [.advance (.ofMillis 10), .expire 0, .advance (.ofMillis 20), .drain 0,
    .session 0 .claim, .session 0 .closed, .task 0, .task 0, .task 0, .session 0 .claim, .task 0,
    .task 0, .advance (.ofMillis 30)]

theorem handed_back_when_drained :
    ∃ p, (Pool.opening loneSession (.ofMillis 0)).run? drainedRun = some p ∧
      (HandedBack ((Pool.opening loneSession (.ofMillis 0)).notes drainedRun) 0 0 ∨
        p.AwaitsChannel 0) ∧
      p.live + ((Pool.opening loneSession (.ofMillis 0)).notes drainedRun).countP Note.isDiscarded +
        ((Pool.opening loneSession (.ofMillis 0)).notes drainedRun).countP Note.isClosed = 1 ∧
      p.now = .ofMillis 30 := by
  have hrun : ((Pool.opening loneSession (.ofMillis 0)).run? drainedRun).any
      (fun p => p.isQuiet ∧ p.now = .ofMillis 30) = true := by
    decide +kernel
  obtain ⟨p, hp, hstate⟩ := (Option.any_eq_true _ _).1 hrun
  obtain ⟨hquiet, hnow⟩ := of_decide_eq_true hstate
  have hpool := handed_back_by_drain_deadline hp rfl
  obtain ⟨c, -, hd, -, hback, -⟩ := hpool.1 0 (.ofMillis 0) (.ofMillis 10) 0 (by decide +kernel)
    (by decide +kernel)
  have hdeadline : c.drainDeadline = .ofMillis 20 :=
    hd (.ofMillis 10) (.ofMillis 20) (by decide) (by decide)
  refine ⟨p, hp, hback ?_ hquiet, hpool.2.2.2.2, hnow⟩
  rw [hdeadline, hnow]
  decide

end Pool

end GraphClient
