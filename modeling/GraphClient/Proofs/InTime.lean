import GraphClient.Proofs.Channels
import GraphClient.Proofs.Requests

/-!
# Outcomes in time

A message that ends a request before the deadline of its caller settles what the caller gets. The
task has to hand its session back first, but nobody else can keep it from that, and it takes no time
unless the channel has to be closed.
-/

namespace GraphClient

/-- The outcome of the request whose exchange this ends. -/
def Transition.outcome? : Transition → Option Outcome
  | complete values => some (.ok values)
  | fail e => some (.error e)
  | proceed | authenticate => none

lemma TaskPhase.isThere_of_outcome {task : TaskPhase} {outcome : Outcome}
    (h : task.outcome? = some outcome) : task.isThere = true := by
  cases task with
  | none => cases h
  | _ => rfl

namespace Conversation

/-- The outcome of the request that a frame ends. A frame that cannot be read ends it as well. -/
def payloadOutcome? (decoder : GraphSON.Decoder) (c : Conversation) :
    Except TransportError Response → Option Outcome
  | .ok frame => (c.exchange.onFrame decoder frame).2.outcome?
  | .error e => some (.error (.protocol ("Invalid response frame: " ++ e.text)))

/-- The outcome of the request that a message ends. -/
def outcome? (decoder : GraphSON.Decoder) (c : Conversation) : Message → Option Outcome
  | .text text => c.payloadOutcome? decoder (Response.ofText text)
  | .binary bytes => c.payloadOutcome? decoder (Response.ofBytes bytes)
  | .close frame => some (.error (.disconnected (Session.closeReason frame)))
  | .ping _ | .pong _ => none

end Conversation

namespace CallPhase

/-- The error that a caller has returned with. -/
def error? : CallPhase → Option ClientError
  | returned (.error e) => some e
  | _ => none

lemma eq_returned {phase : CallPhase} {e : ClientError} (h : phase.error? = some e) :
    phase = .returned (.error e) := by
  unfold error? at h
  split at h <;> cases h
  rfl

end CallPhase

namespace Session

/-- The session waits for its channel to be closed, or to be free of a ping before that. -/
def WaitsToClose (x : Session) : Prop :=
  x.activity.isClosing = true ∨ (x.activity = .claimingEnd ∧ x.keepalive.isPinging = true)

variable {config : ClientConfig} {x : Session} {c : Conversation} {outcome : Outcome}

lemma not_waits_of_resting (h : x.activity = .resting) : ¬x.WaitsForChannel := by
  rintro (ha | ⟨ha, -⟩) <;> rw [h] at ha <;> cases ha

lemma waitsToClose_of_due (h : x.activity.due? = some outcome) (hw : x.WaitsForChannel) :
    x.WaitsToClose := by
  cases ha : x.activity with
  | closingAfter => exact .inl (by rw [ha]; rfl)
  | finished =>
    rcases hw with ho | ⟨ho, -⟩ <;> rw [ha] at ho <;> cases ho
  | _ =>
    rw [ha] at h
    cases h

lemma waitsToClose_of_ending (h : x.IsEnding) (hw : x.WaitsForChannel) : x.WaitsToClose := by
  rcases h with ha | ⟨ha, -⟩ | ⟨ha, -⟩
  · rcases hw with ho | ⟨-, hk⟩
    · rw [ha] at ho
      cases ho
    · exact .inr ⟨ha, hk⟩
  · exact .inl (by rw [ha]; rfl)
  · rcases hw with ho | ⟨ho, -⟩ <;> rw [ha] at ho <;> cases ho

lemma due_conclude (x : Session) (outcome : Outcome) :
    (x.conclude outcome).activity.due? = some outcome := by
  unfold conclude
  split
  · split <;> rfl
  · rfl

lemma due_onPayload {payload : Except TransportError Response}
    (h : c.payloadOutcome? config.decoder payload = some outcome) :
    (x.onPayload config c payload).activity.due? = some outcome := by
  cases payload with
  | error e =>
    cases h
    exact due_conclude _ _
  | ok frame =>
    change (c.exchange.onFrame config.decoder frame).2.outcome? = some outcome at h
    change (x.onFrame config c frame).activity.due? = some outcome
    unfold onFrame
    dsimp only
    split <;> rename_i ht <;> rw [ht] at h <;> cases h
    · exact due_conclude _ _
    · exact due_conclude _ _

/-- A message that ends a request leaves nothing to do for it but to close the channel. -/
lemma due_onMessage {m : Message} (h : c.outcome? config.decoder m = some outcome) :
    (x.onMessage config c m).activity.due? = some outcome := by
  cases m with
  | text | binary => exact due_onPayload h
  | close =>
    cases h
    exact due_conclude _ _
  | ping | pong => cases h

end Session

namespace Pool

variable {config : ClientConfig} {start : Instant} {log : List Note} {p q r : Pool} {e : Event}
variable {i s : Nat} {c : Call} {t deadline : Instant} {d : Duration} {outcome : Outcome}

/-- The session of a call waits for its channel to be closed. -/
def HeldUp (p : Pool) (i : Nat) : Prop :=
  ∃ (c : Call) (s : Nat) (x : Session), p.calls[i]? = some c ∧ c.task.session? = some s ∧
    p.sessions[s]? = some x ∧ x.WaitsToClose

/-- The outcome that a message brings to the request that a session serves. -/
def brings? (p : Pool) (s : Nat) (m : Message) : Option Outcome :=
  p.sessions[s]?.bind fun x =>
    match x.activity with
    | .receiving c => c.outcome? p.config.decoder m
    | _ => none

/-- While a call is held up, the clock stays before the deadline. -/
def FreeBy (p : Pool) (i : Nat) (deadline : Instant) (events : List Event) : Prop :=
  ∀ before later rest q, events = before ++ .advance later :: rest → p.run? before = some q →
    q.HeldUp i → later < deadline

/-- The caller has the outcome, does not want it any more, or will have it in time. -/
def InTime (p : Pool) (i : Nat) (deadline : Instant) (outcome : Outcome) : Prop :=
  ∃ c, p.calls[i]? = some c ∧ (c.phase = .abandoned ∨ c.phase = .returned outcome ∨
    (c.phase = .running ∧ p.now < deadline ∧ p.Bears i outcome))

/-- How a caller whose task has begun goes on. -/
inductive Continues (now : Instant) (c : Call) : CallPhase → Prop
  | same : Continues now c c.phase
  | deliver (outcome : Outcome) (hp : c.phase = .running) (ht : c.task = .finished outcome) :
      Continues now c (.returned outcome)
  | expire (hp : c.phase = .running) (hd : c.deadline ≤ now) :
      Continues now c (.returned (.error (timedOutAfter c.timeout)))
  | abandon (hp : c.phase = .running) : Continues now c .abandoned

lemma Continues.of_not_running {now : Instant} {phase : CallPhase} (h : Continues now c phase)
    (hn : c.phase ≠ .running) : phase = c.phase := by
  cases h with
  | same => rfl
  | deliver _ hp | expire hp | abandon hp => exact absurd hp hn

lemma continues_of_move (h : Move p e q) (hc : p.calls[i]? = some c)
    (he : c.phase.isEarly = false) :
    ∃ c', q.calls[i]? = some c' ∧ Continues p.now c c'.phase := by
  have hset {j : Nat} {b b' : Call} (hb : p.calls[j]? = some b)
      (hq : q.calls = p.calls.setIfInBounds j b')
      (hphase : b.phase.isEarly = false → Continues p.now b b'.phase) :
      ∃ c', q.calls[i]? = some c' ∧ Continues p.now c c'.phase := by
    rcases call_after_set hc hb hq with ⟨rfl, hnext⟩ | ⟨-, hnext⟩
    · exact ⟨b', hnext, hphase he⟩
    · exact ⟨c, hnext, .same⟩
  cases h with
  | connected | close | shut | lock | allClosed | endNext | endOne | session =>
    exact ⟨c, hc, .same⟩
  | arrive => exact ⟨c, call_after_arrive hc _ _, .same⟩
  | enter _ _ hb hph | turnAway _ _ hb hph | refuse _ _ hb hph | ask _ _ hb hph
  | giveUp _ _ hb hph | permit _ _ hb hph | miss _ _ hb hph | take _ _ _ _ hb hph
  | lend _ _ _ hb hph | expireWaiting _ _ hb hph | abandonWaiting _ _ hb hph
  | abandonEarly _ _ hb hph =>
    refine hset hb rfl fun hearly => ?_
    rw [hph] at hearly
    cases hearly
  | deliver _ _ outcome hb hph ht => exact hset hb rfl fun _ => .deliver outcome hph ht
  | expireRunning _ _ hb hph hd => exact hset hb rfl fun _ => .expire hph hd
  | abandonRunning _ _ hb hph => exact hset hb rfl fun _ => .abandon hph
  | begin _ _ _ _ _ hb | settle _ _ _ _ _ hb | lapse _ _ _ _ hb | uncount _ _ _ _ hb
  | putBack _ _ _ _ _ hb | reject _ _ _ _ _ hb | repay _ _ _ hb | drop _ _ _ _ _ hb
  | sealUp _ _ _ hb | drain _ _ _ _ hb => exact hset hb rfl fun _ => .same

/-- In a quiet pool, a caller whose outcome is settled and who still waits is held up. -/
lemma heldUp_of_quiet (hp : Custody p) (hr : Ready p) (hq : p.isQuiet = true)
    (hc : p.calls[i]? = some c) (hph : c.phase = .running) (hb : p.Bears i outcome) :
    p.HeldUp i := by
  obtain ⟨c', hc', hb⟩ := hb
  rw [hc] at hc'
  cases hc'
  have ht : c.task.isThere = true := by
    rcases hb with ho | ⟨s, x, ht, -⟩
    · exact TaskPhase.isThere_of_outcome ho
    · rw [ht]
      rfl
  rcases waits_for_channel_of_quiet hp hr hq hc ht with ⟨o, hfin⟩ | ⟨s, x, hs, hx, hwait⟩
  · have hlt : i < p.calls.size := (Array.getElem?_eq_some_iff.1 hc).1
    have hnone : p.act? (.call i) = none :=
      act_eq_none_of_quiet hq (by simp [internalEvents, timerEvents, hlt])
    simp [act?, callStep?, hc, hph, hfin] at hnone
  · refine ⟨c, s, x, hc, hs, hx, ?_⟩
    rcases hb with ho | ⟨s', x', ht', hx', hdue⟩
    · cases htask : c.task with
      | releasing | placing =>
        rw [htask] at hs
        cases hs
        have hrest : Role.Admits (some .served) x := admits_of_task hp hc (by rw [htask]; rfl) hx
        exact absurd hwait (Session.not_waits_of_resting hrest)
      | discarding =>
        rw [htask] at hs
        cases hs
        have hending : Role.Admits (some .ending) x := admits_of_task hp hc (by rw [htask]; rfl) hx
        exact Session.waitsToClose_of_ending hending hwait
      | none | spawned | submitting | expiring =>
        rw [htask] at ho
        cases ho
      | permitting | sealing | finished =>
        rw [htask] at hs
        cases hs
    · rw [ht'] at hs
      cases hs
      rw [hx] at hx'
      cases hx'
      exact Session.waitsToClose_of_due hdue hwait

/-- Whatever happens, a caller keeps on getting its outcome in time. -/
lemma inTime_of_act (h : History config start log p) (hcalled : .called i t d ∈ log)
    (hin : p.InTime i (t.deadlineAfter d) outcome) (he : p.act? e = some q) :
    q.InTime i (t.deadlineAfter d) outcome := by
  have hp := custody_of_history h
  have hmove := move_of_act he
  obtain ⟨c, hc, hphase⟩ := hin
  have hearly : c.phase.isEarly = false := by
    rcases hphase with hph | hph | ⟨hph, -⟩ <;> rw [hph] <;> rfl
  obtain ⟨c', hc', hnext⟩ := continues_of_move hmove hc hearly
  refine ⟨c', hc', ?_⟩
  generalize c'.phase = phase at hnext ⊢
  rcases hphase with hph | hph | ⟨hph, hnow, hbears⟩
  · exact .inl ((hnext.of_not_running (by rw [hph]; nofun)).trans hph)
  · exact .inr (.inl ((hnext.of_not_running (by rw [hph]; nofun)).trans hph))
  · obtain ⟨b, hb, hd, hdd⟩ := (recorded_of_history h).called i t d hcalled
    rw [hc] at hb
    cases hb
    cases hnext with
    | same =>
      refine .inr (.inr ⟨hph, by rwa [now_of_move hmove], ?_⟩)
      refine bears_of_move hp hmove hbears ?_
      -- the drain deadline is not before the deadline
      rintro rfl
      cases hmove with
      | drain _ b _ _ hb _ hlate =>
        rw [hc] at hb
        cases hb
        have hle : c.deadline ≤ c.drainDeadline := by
          rw [hdd]
          exact Instant.le_deadlineAfter
        rw [← hd] at hnow
        exact absurd (Instant.le_trans hle hlate) (Nat.not_le_of_lt hnow)
    | deliver o _ ht =>
      obtain ⟨b, hb, ho | ⟨_, _, hsub, -⟩⟩ := hbears
      · rw [hc] at hb
        cases hb
        rw [ht] at ho
        cases ho
        exact .inr (.inl rfl)
      · rw [hc] at hb
        cases hb
        rw [ht] at hsub
        cases hsub
    | expire _ hlate =>
      rw [hd] at hlate
      exact absurd hlate (Nat.not_le_of_lt hnow)
    | abandon => exact .inl rfl

/-- While the caller is not held up, the clock does not reach its deadline before it has returned. -/
lemma inTime_of_advance {later : Instant} (h : History config start log p)
    (hin : p.InTime i deadline outcome) (hq : p.isQuiet = true)
    (hfree : p.HeldUp i → later < deadline) :
    InTime { p with now := later } i deadline outcome := by
  obtain ⟨c, hc, hph | hph | ⟨hph, -, hbears⟩⟩ := hin
  · exact ⟨c, hc, .inl hph⟩
  · exact ⟨c, hc, .inr (.inl hph)⟩
  · have hheld := heldUp_of_quiet (custody_of_history h) (ready_of_history h) hq hc hph hbears
    exact ⟨c, hc, .inr (.inr ⟨hph, hfree hheld, hbears⟩)⟩

lemma inTime_of_step (h : History config start log p) (hcalled : .called i t d ∈ log)
    (hin : p.InTime i (t.deadlineAfter d) outcome) (he : p.step? e = some q)
    (hfree : ∀ later, e = .advance later → p.HeldUp i → later < t.deadlineAfter d) :
    q.InTime i (t.deadlineAfter d) outcome := by
  have hact (hact : p.act? e = some q) : q.InTime i (t.deadlineAfter d) outcome :=
    inTime_of_act h hcalled hin hact
  cases e with
  | advance later =>
    simp only [step?] at he
    split at he
    · rename_i hl
      cases he
      exact inTime_of_advance h hin hl.2.1 (hfree later rfl)
    · cases he
  | _ => exact hact he

lemma inTime_of_run {events : List Event} (h : History config start log p)
    (hcalled : .called i t d ∈ log) (hin : p.InTime i (t.deadlineAfter d) outcome)
    (hfree : p.FreeBy i (t.deadlineAfter d) events) (hr : p.run? events = some q) :
    q.InTime i (t.deadlineAfter d) outcome := by
  induction events generalizing log p with
  | nil =>
    cases hr
    exact hin
  | cons e events ih =>
    obtain ⟨r, he, hr⟩ := Option.bind_eq_some_iff.1 hr
    refine ih (history_of_step h he) (List.mem_append_left _ hcalled) ?_ ?_ hr
    · refine inTime_of_step h hcalled hin he ?_
      rintro later rfl
      exact hfree [] later events p rfl rfl
    · intro before later rest u hevents hu
      subst hevents
      exact hfree (e :: before) later rest u rfl (Option.bind_eq_some_iff.2 ⟨r, he, hu⟩)

/-- A message that ends a request leaves its caller with the outcome in time. -/
lemma inTime_of_message {m : Message} (h : History config start log p)
    (hcalled : .called i t d ∈ log) (hnow : p.now < t.deadlineAfter d)
    (hc : p.calls[i]? = some c) (ht : c.task = .submitting s)
    (hm : p.brings? s m = some outcome)
    (hq : p.step? (.session s (.received (.ok (some m)))) = some q) :
    q.InTime i (t.deadlineAfter d) outcome := by
  obtain ⟨x, hx, hm⟩ := Option.bind_eq_some_iff.1 hm
  obtain ⟨x', y, hx', hy, rfl⟩ := sessionStep_eq_some hq
  rw [hx] at hx'
  cases hx'
  have hdue : y.activity.due? = some outcome := by
    split at hm
    · rename_i conversation hreceiving
      simp only [Session.step?, hreceiving] at hy
      cases hy
      exact Session.due_onMessage hm
    · cases hm
  have hbears : (p.setSession s y).Bears i outcome := by
    have hlt : s < p.sessions.size := (Array.getElem?_eq_some_iff.1 hx).1
    exact ⟨c, hc, .inr ⟨s, y, ht, Array.getElem?_setIfInBounds_self_of_lt hlt, hdue⟩⟩
  obtain ⟨b, hb, hd, -⟩ := (recorded_of_history h).called i t d hcalled
  rw [hc] at hb
  cases hb
  refine ⟨c, hc, ?_⟩
  rcases delivered_of_history h i c hc (by rw [ht]; rfl) with hph | hph | ⟨o, -, hfin | hlate⟩
  · exact .inr (.inr ⟨hph, hnow, hbears⟩)
  · exact .inl hph
  · rw [ht] at hfin
    cases hfin
  · rw [hd] at hlate
    exact absurd hlate.2 (Nat.not_le_of_lt hnow)

/-- A message that ends a request before the deadline of its caller, which is the start of the call
plus its timeout where the clock can show that, and thirty years after the start where it cannot:
whatever the pool, the other callers and the closers do from then on, the caller returns with the
outcome of the message, and not because its deadline has passed. Only the channel of its own session
can hold it up, while it is closed or while a ping is going out before that; the clock is not to
come to the deadline in that time. -/
theorem outcome_in_time {events after : List Event} {m : Message}
    (hp : (Pool.opening config start).run? events = some p)
    (hcalled : .called i t d ∈ (Pool.opening config start).notes events)
    (hnow : p.now < t.deadlineAfter d) (hc : p.calls[i]? = some c) (ht : c.task = .submitting s)
    (hm : p.brings? s m = some outcome)
    (hq : p.step? (.session s (.received (.ok (some m)))) = some q)
    (hr : q.run? after = some r) (hfree : q.FreeBy i (t.deadlineAfter d) after) :
    ∃ c', r.calls[i]? = some c' ∧
      (c'.phase = .abandoned ∨ c'.phase = .returned outcome ∨
        (c'.phase = .running ∧ r.now < t.deadlineAfter d ∧
          (r.isQuiet = true → r.HeldUp i))) := by
  have hist := history_of_run .opening hp
  have hist' := history_of_step hist hq
  have hist'' := history_of_run hist' hr
  have hin := inTime_of_message hist hcalled hnow hc ht hm hq
  obtain ⟨c', hc', hph | hph | ⟨hph, hbefore, hb⟩⟩ :=
    inTime_of_run hist' (List.mem_append_left _ hcalled) hin hfree hr
  · exact ⟨c', hc', .inl hph⟩
  · exact ⟨c', hc', .inr (.inl hph)⟩
  · exact ⟨c', hc', .inr (.inr ⟨hph, hbefore, fun hquiet =>
      heldUp_of_quiet (custody_of_history hist'') (ready_of_history hist'') hquiet hc' hph hb⟩)⟩

lemma eq_ok_nil {o : Option Outcome} (h : o.any (·.toOption.any List.isEmpty) = true) :
    o = some (.ok []) := by
  obtain ⟨outcome, rfl, h⟩ := (Option.any_eq_true _ _).1 h
  cases outcome with
  | error => cases h
  | ok values =>
    have hvalues : values.isEmpty = true := h
    rw [List.isEmpty_iff.1 hvalues]

/-- A frame that ends a request without a result. -/
def emptyAnswer : Message := .text "\x7b\"status\":\x7b\"code\":204\x7d\x7d"

/-- The pool is closed while the request is on its way, so that its session has to be disconnected. -/
def shutMeanwhile : List Event :=
  [.close, .closer 0, .closer 0, .closer 0, .task 0, .task 0, .task 0, .session 0 .claim]

/-- The channel is closed before the deadline. -/
def slowClose : List Event :=
  shutMeanwhile ++ [.advance (.ofMillis 5), .session 0 .closed, .task 0, .task 0, .call 0]

theorem outcome_in_time_of_slowClose :
    ∃ p q r c, (Pool.opening loneSession (.ofMillis 0)).run? sendingRun = some p ∧
      p.step? (.session 0 (.received (.ok (some emptyAnswer)))) = some q ∧
      q.run? slowClose = some r ∧ r.now = .ofMillis 5 ∧ r.calls[0]? = some c ∧
      c.phase = .returned (.ok []) := by
  have hrun : ((Pool.opening loneSession (.ofMillis 0)).run? sendingRun).any (fun p =>
      p.now = .ofMillis 0 ∧ p.calls[0]?.any (·.task.holdings = [(0, .serving)]) ∧
        (p.brings? 0 emptyAnswer).any (·.toOption.any List.isEmpty) ∧
        (p.step? (.session 0 (.received (.ok (some emptyAnswer))))).any fun q =>
          (q.run? slowClose).any fun r =>
            r.now = .ofMillis 5 ∧ r.calls[0]?.any (·.phase.outcome?.isSome)) = true := by
    decide +kernel
  obtain ⟨p, hp, hstate⟩ := (Option.any_eq_true _ _).1 hrun
  obtain ⟨hnow, hcall, hm, hnext⟩ := of_decide_eq_true hstate
  obtain ⟨c, hc, hserving⟩ := (Option.any_eq_true _ _).1 hcall
  obtain ⟨q, hq, hnext⟩ := (Option.any_eq_true _ _).1 hnext
  obtain ⟨r, hr, hnext⟩ := (Option.any_eq_true _ _).1 hnext
  obtain ⟨hlater, hdone⟩ := of_decide_eq_true hnext
  obtain ⟨b, hb, hdone⟩ := (Option.any_eq_true _ _).1 hdone
  have ht : c.task = .submitting 0 := by
    have hholdings := of_decide_eq_true hserving
    cases htask : c.task <;> rw [htask] at hholdings <;> simp [TaskPhase.holdings] at hholdings
    rw [hholdings]
  have hfree : q.FreeBy 0 (.ofMillis 10) slowClose := by
    intro before later rest u hevents _ _
    have hmem : Event.advance later ∈ slowClose := by
      rw [hevents]
      exact List.mem_append_right _ List.mem_cons_self
    have hfive : later = .ofMillis 5 := by simpa [slowClose, shutMeanwhile] using hmem
    rw [hfive]
    decide
  obtain ⟨c', hc', hphase⟩ := outcome_in_time (t := .ofMillis 0) (d := .ofMillis 10) hp
    (by decide +kernel) (by rw [hnow]; decide) hc ht (eq_ok_nil hm) hq hr hfree
  rw [hc'] at hb
  cases hb
  refine ⟨p, q, r, b, hp, hq, hr, hlater, hc', ?_⟩
  rcases hphase with hph | hph | ⟨hph, -⟩
  · rw [hph] at hdone
    cases hdone
  · exact hph
  · rw [hph] at hdone
    cases hdone

/-- The channel is not closed before the deadline. -/
def stuckClose : List Event := shutMeanwhile ++ [.advance (.ofMillis 10), .expire 0]

/-- A caller can be told that its deadline has passed although its request was answered before: where
the channel takes too long to close after the answer. -/
theorem timedOut_although_answered :
    ∃ p q r c, (Pool.opening loneSession (.ofMillis 0)).run? sendingRun = some p ∧
      .called 0 (.ofMillis 0) (.ofMillis 10) ∈
        (Pool.opening loneSession (.ofMillis 0)).notes sendingRun ∧
      p.now < .ofMillis 10 ∧ p.brings? 0 emptyAnswer = some (.ok []) ∧
      p.step? (.session 0 (.received (.ok (some emptyAnswer)))) = some q ∧
      q.run? stuckClose = some r ∧ r.calls[0]? = some c ∧
      c.phase = .returned (.error (timedOutAfter (.ofMillis 10))) := by
  have hrun : ((Pool.opening loneSession (.ofMillis 0)).run? sendingRun).any (fun p =>
      p.now < .ofMillis 10 ∧ (p.brings? 0 emptyAnswer).any (·.toOption.any List.isEmpty) ∧
        (p.step? (.session 0 (.received (.ok (some emptyAnswer))))).any fun q =>
          (q.run? stuckClose).any fun r =>
            r.calls[0]?.any (·.phase.error? = some (timedOutAfter (.ofMillis 10)))) = true := by
    decide +kernel
  obtain ⟨p, hp, hstate⟩ := (Option.any_eq_true _ _).1 hrun
  obtain ⟨hnow, hm, hnext⟩ := of_decide_eq_true hstate
  obtain ⟨q, hq, hnext⟩ := (Option.any_eq_true _ _).1 hnext
  obtain ⟨r, hr, hnext⟩ := (Option.any_eq_true _ _).1 hnext
  obtain ⟨c, hc, he⟩ := (Option.any_eq_true _ _).1 hnext
  exact ⟨p, q, r, c, hp, by decide +kernel, hnow, eq_ok_nil hm, hq, hr, hc,
    CallPhase.eq_returned (of_decide_eq_true he)⟩

end Pool

end GraphClient
