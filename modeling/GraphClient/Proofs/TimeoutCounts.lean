import GraphClient.Proofs.Exhaustion

/-!
# Counts of calls

What the counters of a pool say about its calls. Each session that was lent counts, and each call
that was told that its time is up counts once, whether it was still waiting for a session or for its
answer. A request that is drained ends with the same kind of error and does not count, but nobody
waits for it any longer: its drain deadline is a whole millisecond after the deadline of its call,
and the clock does not come so far before the call is over.
-/

namespace GraphClient

namespace Instant

lemma ceilMillis_lt_deadlineAfter {t : Instant} {d : Duration}
    (hd : (Duration.ofMillis 1).nanos ≤ d.nanos) : ofMillis t.ceilMillis < t.deadlineAfter d := by
  have hone : 1000000 ≤ d.nanos := hd
  have hfar : 1000000 ≤ farFuture.nanos := by decide
  unfold deadlineAfter add?
  split
  · change (t.nanos + 999999) / 1000000 * 1000000 < t.nanos + d.nanos
    omega
  · change (t.nanos + 999999) / 1000000 * 1000000 < t.nanos + farFuture.nanos
    omega

end Instant

def Outcome.isTimeout : Outcome → Bool
  | .error e => e.kind = .timeout
  | .ok _ => false

namespace Call

/-- The call was told that its time is up. -/
def isTimedOut (c : Call) : Bool := c.phase.outcome?.any Outcome.isTimeout

/-- The call has got a session, which has been counted. -/
def isServed (c : Call) : Bool := c.task.isThere

/-- The call has taken a session that does not count yet. -/
def isHolding (c : Call) : Bool :=
  match c.phase with
  | .holding _ => true
  | _ => false

/-- The call has taken a session, whether it counts yet or not. -/
def hasTaken (c : Call) : Bool := c.isServed || c.isHolding

/-- The request of the call is drained, or has been. -/
def isLate (c : Call) : Bool :=
  match c.task with
  | .expiring _ => true
  | task => task.outcome?.any Outcome.isTimeout

end Call

namespace Session

lemma isTimeout_of_finished {x : Session} {outcome : Outcome} (hx : x.IsSincere)
    (h : x.activity = .finished outcome) : Outcome.isTimeout outcome = false := by
  cases outcome with
  | ok values => rfl
  | error e =>
    have he := hx e (by rw [h]; rfl)
    cases hk : e.kind <;> simp_all [Outcome.isTimeout, ErrorKind.isPools]

end Session

namespace Pool

/-- The call whose deadline has passed in an event. -/
def Event.expired? : Event → Option Nat
  | expire i => some i
  | _ => none

/-- The calls whose deadlines have passed in a run, in order. -/
def expired (events : List Event) : List Nat := events.filterMap Event.expired?

/-- A call that waits is in time, and its request is not drained before it is over. -/
structure OnTime (now : Instant) (c : Call) : Prop where
  apart : .ofMillis c.deadline.ceilMillis < c.drainDeadline
  waits : c.phase.isOver = false → now ≤ .ofMillis c.deadline.ceilMillis
  late : c.isLate = true → c.phase.isOver = true

variable {config : ClientConfig} {start now : Instant} {log : List Note} {p q : Pool} {e : Event}
variable {events seen : List Event}

/-- A caller that has not returned takes another step, with its task as it is. -/
lemma OnTime.phase {c : Call} (h : OnTime now c) (hp : c.phase.isOver = false)
    (phase : CallPhase) : OnTime now { c with phase } := by
  refine ⟨h.apart, fun _ => h.waits hp, fun hl => ?_⟩
  rw [h.late hl] at hp
  cases hp

lemma OnTime.task {c : Call} (h : OnTime now c) {task : TaskPhase}
    (hl : Call.isLate { c with task } = true → c.isLate = true) : OnTime now { c with task } :=
  ⟨h.apart, h.waits, fun hlate => h.late (hl hlate)⟩

lemma isLate_of_outcome {c : Call} {outcome : Outcome} {task : TaskPhase}
    (hb : c.task.outcome? = some outcome) (ha : task.outcome? = some outcome)
    (h : Call.isLate { c with task } = true) : c.isLate = true := by
  unfold Call.isLate at *
  cases hc : c.task <;> cases ht : task <;> simp_all [TaskPhase.outcome?]

lemma onTime_of_move (hs : ∀ (s : Nat) (x : Session), p.sessions[s]? = some x → x.IsSincere)
    (hdrain : (Duration.ofMillis 1).nanos ≤ p.config.drainTimeout.nanos)
    (hp : ∀ (i : Nat) (c : Call), p.calls[i]? = some c → OnTime p.now c) (h : Move p e q) :
    ∀ (i : Nat) (c : Call), q.calls[i]? = some c → OnTime q.now c := by
  rw [now_of_move h]
  cases h with
  | connected | close | shut | lock | allClosed | endNext | endOne | session => exact hp
  | arrive script timeout =>
    refine forall_push hp ⟨Instant.ceilMillis_lt_deadlineAfter hdrain, fun _ => ?_, nofun⟩
    exact Instant.le_trans Instant.le_deadlineAfter Instant.le_ofMillis_ceilMillis
  | enter i c hc hph | turnAway i c hc hph | refuse i c hc hph | ask i c hc hph
  | giveUp i c hc hph | permit i c hc hph | miss i c hc hph | take i c _ _ hc hph
  | deliver i c _ hc hph | expireWaiting i c hc hph | expireRunning i c hc hph
  | abandonWaiting i c hc hph | abandonEarly i c hc hph | abandonRunning i c hc hph =>
    exact forall_setIfInBounds hp ((hp i c hc).phase (by rw [hph]; rfl) _)
  | lend i c s hc hph =>
    refine forall_setIfInBounds hp ⟨(hp i c hc).apart, fun _ => ?_, nofun⟩
    exact (hp i c hc).waits (by rw [hph]; rfl)
  | begin i id c s x hc ht => exact forall_setIfInBounds hp ((hp i c hc).task nofun)
  | settle i c s x outcome hc ht hx hf =>
    refine forall_setIfInBounds hp ((hp i c hc).task fun hl => ?_)
    have hno : Outcome.isTimeout outcome = false := Session.isTimeout_of_finished (hs s x hx) hf
    have hyes : Outcome.isTimeout outcome = true := hl
    rw [hno] at hyes
    cases hyes
  | lapse i c s x hc ht =>
    exact forall_setIfInBounds hp ((hp i c hc).task fun _ => by rw [Call.isLate, ht])
  | uncount i c _ outcome hc ht | putBack i c _ _ outcome hc ht | reject i c _ _ outcome hc ht
  | repay i c outcome hc ht | sealUp i c outcome hc ht =>
    exact forall_setIfInBounds hp ((hp i c hc).task (isLate_of_outcome (by rw [ht]; rfl) rfl))
  | drop i c _ _ outcome hc ht =>
    refine forall_setIfInBounds hp ((hp i c hc).task (isLate_of_outcome (by rw [ht]; rfl) ?_))
    split <;> rfl
  | drain i c s x hc ht hd =>
    refine forall_setIfInBounds hp ⟨(hp i c hc).apart, (hp i c hc).waits, fun _ => ?_⟩
    -- the clock has left the deadline of the call behind
    by_contra hover
    have hwaits := (hp i c hc).waits (by simpa using hover)
    have hpast : Instant.ofMillis c.deadline.ceilMillis < p.now :=
      Nat.lt_of_lt_of_le (hp i c hc).apart hd
    exact Nat.not_le_of_lt hpast hwaits

/-- Time passes only up to the deadlines of the calls that wait. -/
lemma onTime_of_advance {later : Instant} (hq : p.isQuiet = true)
    (hl : p.deadlines.all (later ≤ .ofMillis ·.ceilMillis) = true)
    (hp : ∀ (i : Nat) (c : Call), p.calls[i]? = some c → OnTime p.now c) :
    ∀ (i : Nat) (c : Call), p.calls[i]? = some c → OnTime later c := by
  intro i c hc
  refine ⟨(hp i c hc).apart, fun hover => ?_, (hp i c hc).late⟩
  have hmem : c.deadline ∈ callDeadlines c := by
    have hphase : c.phase = .waiting ∨ c.phase = .running := by
      cases he : c.phase.isEarly with
      | true => exact .inl (waiting_of_quiet hq hc he)
      | false => cases hph : c.phase <;> simp_all [CallPhase.isEarly, CallPhase.isOver]
    rcases hphase with hph | hph <;>
    · rw [callDeadlines, hph]
      exact List.mem_append_left _ (List.mem_singleton_self _)
  simpa using List.all_eq_true.1 hl _ (mem_deadlines hc hmem)

/-- What a move does to the calls that were told that their time is up, and to their counter. -/
inductive Toll (p q : Pool) : Option Nat → Prop
  | expire (i : Nat) (c c' : Call) (hc : p.calls[i]? = some c)
      (hq : q.calls = p.calls.setIfInBounds i c') (hno : c.isTimedOut = false)
      (hyes : c'.isTimedOut = true) (ht : q.timeouts = p.timeouts + 1) : Toll p q (some i)
  | set (i : Nat) (c c' : Call) (hc : p.calls[i]? = some c)
      (hq : q.calls = p.calls.setIfInBounds i c') (hsame : c'.isTimedOut = c.isTimedOut)
      (ht : q.timeouts = p.timeouts) : Toll p q none
  | push (c : Call) (hq : q.calls = p.calls.push c) (hno : c.isTimedOut = false)
      (ht : q.timeouts = p.timeouts) : Toll p q none
  | keep (hq : q.calls = p.calls) (ht : q.timeouts = p.timeouts) : Toll p q none

lemma isTimedOut_of_waits {c : Call} (h : c.phase.isOver = false) : c.isTimedOut = false := by
  unfold Call.isTimedOut
  cases hph : c.phase <;> simp_all [CallPhase.isOver, CallPhase.outcome?]

/-- Only a caller whose deadline has passed is told that its time is up. -/
theorem toll_of_move (hp : ∀ (i : Nat) (c : Call), p.calls[i]? = some c → OnTime p.now c)
    (h : Move p e q) : Toll p q e.expired? := by
  -- a caller that takes another step and is not told so
  have hphase {i : Nat} {c : Call} {phase : CallPhase} (hc : p.calls[i]? = some c)
      (hq : q.calls = p.calls.setIfInBounds i { c with phase }) (hw : c.phase.isOver = false)
      (hn : Call.isTimedOut { c with phase } = false) (ht : q.timeouts = p.timeouts) :
      Toll p q none :=
    .set i c _ hc hq (hn.trans (isTimedOut_of_waits hw).symm) ht
  cases h with
  | connected | close | shut | lock | allClosed | endNext | endOne | session =>
    exact .keep rfl rfl
  | arrive => exact .push _ rfl rfl rfl
  | enter i c hc hph | turnAway i c hc hph | refuse i c hc hph | ask i c hc hph
  | giveUp i c hc hph | permit i c hc hph | miss i c hc hph | take i c _ _ hc hph
  | abandonWaiting i c hc hph | abandonEarly i c hc hph | abandonRunning i c hc hph =>
    exact hphase hc rfl (by rw [hph]; rfl) rfl rfl
  | deliver i c outcome hc hph ht =>
    refine hphase hc rfl (by rw [hph]; rfl) ?_ rfl
    by_contra hyes
    have hlate : c.isLate = true := by
      rw [Call.isLate, ht]
      exact eq_true_of_ne_false hyes
    have hover := (hp i c hc).late hlate
    rw [hph] at hover
    cases hover
  | lend i c s hc hph =>
    exact .set i c _ hc rfl (isTimedOut_of_waits (by rw [hph]; rfl)).symm rfl
  | expireWaiting i c hc hph | expireRunning i c hc hph =>
    exact .expire i c _ hc rfl (isTimedOut_of_waits (by rw [hph]; rfl)) rfl rfl
  | begin i _ c _ _ hc | settle i c _ _ _ hc | lapse i c _ _ hc | uncount i c _ _ hc
  | putBack i c _ _ _ hc | reject i c _ _ _ hc | repay i c _ hc | drop i c _ _ _ hc
  | sealUp i c _ hc | drain i c _ _ hc => exact .set i c _ hc rfl rfl rfl

lemma served_of_move (hcust : Custody p) (hp : p.checkouts = p.tally Call.isServed)
    (h : Move p e q) : q.checkouts = q.tally Call.isServed := by
  have hset {i : Nat} {c c' : Call} (hc : p.calls[i]? = some c)
      (hq : q.calls = p.calls.setIfInBounds i c')
      (hn : q.checkouts + c.isServed.toNat = p.checkouts + c'.isServed.toNat) :
      q.checkouts = q.tally Call.isServed := by
    have htally := tally_set Call.isServed c' hc hq
    omega
  cases h with
  | connected | close | shut | lock | allClosed | endNext | endOne | session => exact hp
  | arrive script timeout =>
    rw [tally_push (q := p.arrive script timeout) Call.isServed _ rfl]
    exact hp
  | enter i c hc | turnAway i c hc | refuse i c hc | ask i c hc | giveUp i c hc | permit i c hc
  | miss i c hc | take i c _ _ hc | deliver i c _ hc | expireWaiting i c hc
  | expireRunning i c hc | abandonWaiting i c hc | abandonEarly i c hc | abandonRunning i c hc =>
    exact hset hc rfl rfl
  | lend i c s hc hph =>
    have ht : c.task = .none := hcust.early i c hc (by rw [hph]; rfl)
    exact hset hc rfl (by rw [Call.isServed, ht]; rfl)
  | begin i _ c _ _ hc ht | settle i c _ _ _ hc ht | lapse i c _ _ hc ht
  | uncount i c _ _ hc ht | putBack i c _ _ _ hc ht | reject i c _ _ _ hc ht
  | repay i c _ hc ht | sealUp i c _ hc ht | drain i c _ _ hc ht =>
    exact hset hc rfl (by rw [Call.isServed, ht]; rfl)
  | drop i c _ _ outcome hc ht =>
    refine hset hc rfl ?_
    rw [Call.isServed, ht, Call.isServed]
    dsimp only
    split <;> rfl

/-- How the counters of a pool agree with its calls after some events. -/
structure Counted (seen : List Event) (p : Pool) : Prop where
  onTime : ∀ (i : Nat) (c : Call), p.calls[i]? = some c → OnTime p.now c
  checkouts : p.checkouts = p.tally Call.isServed
  timeouts : p.timeouts = p.tally Call.isTimedOut
  length : p.timeouts = (expired seen).length
  each : ∀ i, (expired seen).count i = (p.calls[i]?.any Call.isTimedOut).toNat

lemma any_of_set {i j : Nat} {c : Call} (f : Call → Bool) (hi : i < p.calls.size)
    (hq : q.calls = p.calls.setIfInBounds i c) :
    q.calls[j]?.any f = if j = i then f c else p.calls[j]?.any f := by
  rw [hq]
  split
  · rename_i hj
    rw [hj, Array.getElem?_setIfInBounds_self_of_lt hi, Option.any_some]
  · rename_i hj
    rw [Array.getElem?_setIfInBounds_ne (Ne.symm hj)]

lemma expired_concat (e : Event) : expired (seen ++ [e]) = expired seen ++ e.expired?.toList := by
  rw [expired, expired, filterMap_concat]

/-- What was counted is counted still, and a call whose deadline has passed besides. -/
lemma counted_of_toll {i? : Option Nat} (hc : Counted seen p) (h : Toll p q i?)
    (he : e.expired? = i?) :
    q.timeouts = q.tally Call.isTimedOut ∧
      q.timeouts = (expired (seen ++ [e])).length ∧
      ∀ i, (expired (seen ++ [e])).count i = (q.calls[i]?.any Call.isTimedOut).toNat := by
  have htimeouts := hc.timeouts
  have hlength := hc.length
  rw [expired_concat, he]
  cases h with
  | expire i c c' hi hq hno hyes ht =>
    have hlt : i < p.calls.size := (Array.getElem?_eq_some_iff.1 hi).1
    have htally := tally_set Call.isTimedOut c' hi hq
    rw [hno, hyes, Bool.toNat_false, Bool.toNat_true] at htally
    refine ⟨by omega, by simp [ht, hlength], fun j => ?_⟩
    rw [List.count_append, hc.each j, any_of_set Call.isTimedOut hlt hq]
    by_cases hj : j = i
    · subst hj
      simp [hi, hno, hyes]
    · simp [hj, Ne.symm hj]
  | set i c c' hi hq hsame ht =>
    have hlt : i < p.calls.size := (Array.getElem?_eq_some_iff.1 hi).1
    have htally := tally_set Call.isTimedOut c' hi hq
    rw [hsame] at htally
    rw [Option.toList_none, List.append_nil]
    refine ⟨by omega, ht.trans hlength, fun j => ?_⟩
    rw [hc.each j, any_of_set Call.isTimedOut hlt hq]
    split
    · rename_i hj
      rw [hj, hi, Option.any_some, hsame]
    · rfl
  | push c hq hno ht =>
    have htally := tally_push Call.isTimedOut c hq
    rw [hno] at htally
    rw [Option.toList_none, List.append_nil]
    refine ⟨by rw [ht, htimeouts, htally]; rfl, ht.trans hlength, fun j => ?_⟩
    rw [hc.each j, hq, Array.getElem?_push]
    split
    · rename_i hj
      rw [hj, Array.getElem?_eq_none (Nat.le_refl _), Option.any_some, hno, Option.any_none]
    · rfl
  | keep hq ht =>
    rw [Option.toList_none, List.append_nil]
    refine ⟨?_, ht.trans hlength, fun j => by rw [hc.each j, hq]⟩
    rw [ht, htimeouts, tally, tally, hq]

theorem counted_of_step (hdrain : (Duration.ofMillis 1).nanos ≤ config.drainTimeout.nanos)
    (h : History config start log p) (hc : Counted seen p) (he : p.step? e = some q) :
    Counted (seen ++ [e]) q := by
  have hact (hact : p.act? e = some q) : Counted (seen ++ [e]) q := by
    have hmove := move_of_act hact
    have hconfig : (Duration.ofMillis 1).nanos ≤ p.config.drainTimeout.nanos := by
      rwa [config_of_history h]
    obtain ⟨htally, hlength, heach⟩ := counted_of_toll hc (toll_of_move hc.onTime hmove) rfl
    exact ⟨onTime_of_move (sincere_of_history h) hconfig hc.onTime hmove,
      served_of_move (custody_of_history h) hc.checkouts hmove, htally, hlength, heach⟩
  cases e with
  | advance later =>
    simp only [step?] at he
    split at he
    · rename_i hl
      cases he
      have htimes := onTime_of_advance hl.2.1 hl.2.2 hc.onTime
      obtain ⟨htally, hlength, heach⟩ := counted_of_toll (q := { p with now := later })
        (e := .advance later) hc (.keep rfl rfl) rfl
      exact ⟨htimes, hc.checkouts, htally, hlength, heach⟩
    · cases he
  | _ => exact hact he

lemma counted_of_run (hdrain : (Duration.ofMillis 1).nanos ≤ config.drainTimeout.nanos)
    (h : History config start log p) (hc : Counted seen p) (hr : p.run? events = some q) :
    Counted (seen ++ events) q := by
  induction events generalizing log seen p with
  | nil =>
    cases hr
    rwa [List.append_nil]
  | cons e events ih =>
    obtain ⟨r, he, hr⟩ := Option.bind_eq_some_iff.1 hr
    rw [List.append_cons]
    exact ih (history_of_step h he) (counted_of_step hdrain h hc he) hr

lemma counted_opening (config : ClientConfig) (start : Instant) :
    Counted [] (Pool.opening config start) where
  onTime i c hc := by simp [Pool.opening] at hc
  checkouts := rfl
  timeouts := rfl
  length := rfl
  each i := by simp [Pool.opening, expired]

/-- A call that has taken a session has no task before the session counts. -/
lemma hasTaken_of_custody {i : Nat} {c : Call} (hp : Custody p) (hc : p.calls[i]? = some c) :
    c.hasTaken.toNat = c.isServed.toNat + c.isHolding.toNat := by
  rw [Call.hasTaken]
  cases hh : c.isHolding with
  | false => rw [Bool.or_false, Bool.toNat_false, Nat.add_zero]
  | true =>
    have hearly : c.phase.isEarly = true := by
      unfold Call.isHolding at hh
      split at hh
      · rename_i s hph
        rw [hph]
        rfl
      · cases hh
    rw [Call.isServed, hp.early i c hc hearly]
    rfl

/-- What the counters of a pool say after a run. -/
structure CountsCalls (config : ClientConfig) (start : Instant) (events : List Event)
    (p : Pool) : Prop where
  /-- Every call that has a session, or had one, is counted once. -/
  checkouts : p.checkouts = p.tally Call.isServed
  /-- A call that has taken its session and does not count yet is about to. -/
  taken : p.tally Call.hasTaken = p.checkouts + p.tally Call.isHolding
  /-- The calls that were told that their time is up are counted. -/
  timeouts : p.timeouts = p.tally Call.isTimedOut
  /-- Each of them is counted when its deadline has passed, -/
  length : p.timeouts = (expired events).length
  /-- and no call is counted twice, nor one that was told anything else. -/
  each : ∀ i, (expired events).count i = (p.calls[i]?.any Call.isTimedOut).toNat
  /-- Every session is live, was discarded after a request, or was closed with the pool. -/
  size : config.poolSize = p.live + p.discarded +
    ((Pool.opening config start).notes events).countP Note.isClosed
  /-- The sessions that calls have are in use, unless they are about to be handed back. -/
  inUse : p.inUse + p.tally Call.isLeaving = p.tally Call.hasSession
  /-- Those that calls have had were handed back. -/
  released : p.checkouts = p.inUse + p.tally Call.isLeaving + p.discarded +
    ((Pool.opening config start).notes events).countP Note.isReturned

/-- Whatever callers, tasks, closers, channels and the clock do, the counters agree with the calls, as
long as requests are drained for a millisecond at least. -/
theorem countsCalls_of_run (hdrain : (Duration.ofMillis 1).nanos ≤ config.drainTimeout.nanos)
    (hr : (Pool.opening config start).run? events = some p) :
    CountsCalls config start events p := by
  have hist : History config start ((Pool.opening config start).notes events) p :=
    history_of_run .opening hr
  have hacc := accounts_of_history hist
  have hcounted : Counted events p :=
    counted_of_run hdrain .opening (counted_opening config start) hr
  have hinUse : p.inUse + p.tally Call.isLeaving = p.tally Call.hasSession := by
    rw [tally_hasSession, (books_of_history hist).inUse]
  have htaken : p.tally Call.hasTaken = p.tally Call.isServed + p.tally Call.isHolding := by
    refine tally_add fun c hc => ?_
    obtain ⟨i, hi⟩ := Array.mem_iff_getElem?.1 hc
    exact hasTaken_of_custody (custody_of_history hist) hi
  refine ⟨hcounted.checkouts, ?_, hcounted.timeouts, hcounted.length, hcounted.each, ?_, hinUse,
    ?_⟩
  · rw [htaken, hcounted.checkouts]
  · have hlive := hacc.live
    rw [config_of_history hist, ← hacc.discarded] at hlive
    exact hlive.symm
  · have hheld := hacc.held
    have hlent := hacc.checkouts
    have hdiscarded := hacc.discarded
    omega

/-- A second call runs out of time while it waits for the session, and the first one while it waits
for its answer. The session is discarded when the request has been drained. -/
def crowdedRun : List Event :=
  sendingRun ++ [.arrive "g.E()" (.ofMillis 5), .call 1, .call 1, .advance (.ofMillis 5), .expire 1,
    .advance (.ofMillis 10), .expire 0, .advance (.ofMillis 20), .drain 0, .session 0 .claim,
    .session 0 .closed, .task 0, .task 0, .task 0, .session 0 .claim, .task 0, .task 0]

lemma crowdedRun_evaluated :
    ((Pool.opening loneSession (.ofMillis 0)).run? crowdedRun).any (fun p =>
      p.timeouts = 2 ∧ p.checkouts = 1 ∧ p.discarded = 1 ∧ p.live = 0) = true := by
  decide +kernel

theorem countsCalls_of_crowdedRun :
    (Duration.ofMillis 1).nanos ≤ loneSession.drainTimeout.nanos ∧
    expired crowdedRun = [1, 0] ∧
    ∃ p, (Pool.opening loneSession (.ofMillis 0)).run? crowdedRun = some p ∧
      p.timeouts = 2 ∧ p.checkouts = 1 ∧ p.discarded = 1 ∧ p.live = 0 ∧
      CountsCalls loneSession (.ofMillis 0) crowdedRun p := by
  have hdrain : (Duration.ofMillis 1).nanos ≤ loneSession.drainTimeout.nanos := by decide
  obtain ⟨p, hp, hstate⟩ := (Option.any_eq_true _ _).1 crowdedRun_evaluated
  obtain ⟨htimeouts, hcheckouts, hdiscarded, hlive⟩ := of_decide_eq_true hstate
  exact ⟨hdrain, rfl, p, hp, htimeouts, hcheckouts, hdiscarded, hlive,
    countsCalls_of_run hdrain hp⟩

end Pool

end GraphClient
