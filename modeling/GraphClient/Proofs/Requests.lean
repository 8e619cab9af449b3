import GraphClient.Proofs.Exhaustion

/-!
# Requests in progress

From the moment a task has its session, nobody else touches the two: the request goes on by its own
events alone, in the same way whether or not the pool has been shut, and nothing but the channel of
its session ever holds it up. The outcome of its exchange becomes that of the task, and its caller
gets it unless it stops waiting first.
-/

namespace GraphClient

namespace Activity

/-- An operation of the channel is going on. -/
def isOperation : Activity → Bool
  | sendingRequest _ | receiving _ | sendingPong _ _ | sendingAnswer _ _ | closingAfter _
  | closing => true
  | _ => false

/-- The user waits to get hold of the channel. -/
def isClaim : Activity → Bool
  | claimingRequest _ _ | claimingEnd => true
  | _ => false

/-- The outcome that a request will have, now that its exchange is over. -/
def due? : Activity → Option Outcome
  | closingAfter e => some (.error e)
  | finished outcome => some outcome
  | _ => none

end Activity

/-- The session waits for an operation of its channel, or for a ping to leave the channel free. -/
def Session.WaitsForChannel (x : Session) : Prop :=
  x.activity.isOperation = true ∨ (x.activity.isClaim = true ∧ x.keepalive.isPinging = true)

lemma Session.AwaitsChannel.waitsForChannel {x : Session} (h : x.AwaitsChannel) :
    x.WaitsForChannel := by
  rcases h with ha | ⟨ha, hk⟩
  · exact .inl (by rw [ha]; rfl)
  · exact .inr ⟨by rw [ha]; rfl, hk⟩

namespace Pool

/-- The event is one of the task of a call, or of its session. -/
def Event.isOf (i s : Nat) : Event → Bool
  | .begin j _ | .task j | .drain j => j = i
  | .session t _ => t = s
  | _ => false

variable {config : ClientConfig} {start : Instant} {log : List Note} {p q : Pool} {e : Event}

section Calls

variable {i j : Nat} {b b' c : Call}

/-- A call after the call at some position has been replaced. -/
lemma call_after_set (hc : p.calls[i]? = some c) (hb : p.calls[j]? = some b)
    (hq : q.calls = p.calls.setIfInBounds j b') :
    (b = c ∧ q.calls[i]? = some b') ∨ (j ≠ i ∧ q.calls[i]? = some c) := by
  rw [hq]
  by_cases hij : j = i
  · subst hij
    rw [hc] at hb
    cases hb
    exact .inl ⟨rfl,
      Array.getElem?_setIfInBounds_self_of_lt (Array.getElem?_eq_some_iff.1 hc).1⟩
  · exact .inr ⟨hij, by rw [Array.getElem?_setIfInBounds_ne hij, hc]⟩

lemma call_after_arrive (hc : p.calls[i]? = some c) (script : String) (timeout : Duration) :
    (p.arrive script timeout).calls[i]? = some c := by
  have hlt : i < p.calls.size := (Array.getElem?_eq_some_iff.1 hc).1
  rw [arrive, Array.getElem?_push, if_neg (by omega), hc]

end Calls

section Holders

variable {i j k s : Nat} {c c' : Call} {f : CloserPhase} {x : Session}

lemma place_unique (hp : Custody p) {a b : Place} (ha : (s, a) ∈ p.places)
    (hb : (s, b) ∈ p.places) : a = b := by
  have hnodup : (p.places.map (·.1)).Nodup := by
    rw [places_sessions]
    exact hp.nodup
  exact congrArg Prod.snd (List.inj_on_of_nodup_map hnodup ha hb rfl)

lemma place_of_task (hc : p.calls[i]? = some c) (hs : c.task.session? = some s) :
    (s, .request i) ∈ p.places ∨ (s, .discarding i) ∈ p.places := by
  have hmem (place : Place) (h : (c.Owns s ∧ place = .request i) ∨
      (c.Discards s ∧ place = .discarding i)) : (s, place) ∈ p.places :=
    List.mem_append_left _ (List.mem_append_right _ (mem_places_calls.2 ⟨i, c, hc, h⟩))
  cases hd : c.task.isDiscarding with
  | false => exact .inl (hmem _ (.inl ⟨.inr ⟨hs, hd⟩, rfl⟩))
  | true => exact .inr (hmem _ (.inr ⟨⟨hs, hd⟩, rfl⟩))

lemma place_of_closer (hf : p.closers[k]? = some f) (hs : s ∈ f.sessions) :
    (s, .closing k) ∈ p.places :=
  List.mem_append_right _ (mem_places_closers.2 ⟨k, f, hf, hs, rfl⟩)

/-- No two tasks have the same session. -/
lemma task_unique (hp : Custody p) (hc : p.calls[i]? = some c) (hs : c.task.session? = some s)
    (hc' : p.calls[j]? = some c') (hs' : c'.task.session? = some s) : j = i := by
  rcases place_of_task hc hs with h | h <;> rcases place_of_task hc' hs' with h' | h' <;>
    cases place_unique hp h h' <;> rfl

/-- No closer has the session of a task. -/
lemma not_mem_closer (hp : Custody p) (hc : p.calls[i]? = some c)
    (hs : c.task.session? = some s) (hf : p.closers[k]? = some f) : s ∉ f.sessions := by
  intro hmem
  rcases place_of_task hc hs with h | h <;> cases place_unique hp h (place_of_closer hf hmem)

/-- The session of a task is as the task demands. -/
lemma admits_of_task (hp : Custody p) {role : Role} (hc : p.calls[i]? = some c)
    (h : c.task.holdings = [(s, role)]) (hx : p.sessions[s]? = some x) :
    Role.Admits (some role) x := by
  have hadmits := hp.admits s x hx
  rwa [role_of_task hp hc (by rw [h]; exact List.mem_singleton_self _)] at hadmits

end Holders

section Untouched

variable {i s : Nat} {c : Call}

/-- The task of a call and its session are as they were; the caller may have gone on. -/
def Untouched (p q : Pool) (i s : Nat) (c : Call) : Prop :=
  (∃ phase, q.calls[i]? = some { c with phase }) ∧ q.sessions[s]? = p.sessions[s]?

lemma untouched_of_phase {j : Nat} {c' : Call} {phase : CallPhase} (hc : p.calls[i]? = some c)
    (hc' : p.calls[j]? = some c') (hq : q.calls = p.calls.setIfInBounds j { c' with phase })
    (hs : q.sessions = p.sessions) : Untouched p q i s c := by
  refine ⟨?_, by rw [hs]⟩
  rcases call_after_set hc hc' hq with ⟨rfl, hnext⟩ | ⟨-, hnext⟩
  · exact ⟨phase, hnext⟩
  · exact ⟨c.phase, hnext⟩

/-- The task of another call goes on with another session, or with none. -/
lemma untouched_of_task {j t : Nat} {b : Call} {y : Session} (hc : p.calls[i]? = some c)
    (hq : q.calls = p.calls.setIfInBounds j b) (hij : j ≠ i)
    (hs : q.sessions = p.sessions.setIfInBounds t y) (hst : t ≠ s) : Untouched p q i s c :=
  ⟨⟨c.phase, by rw [hq, Array.getElem?_setIfInBounds_ne hij, hc]⟩,
    by rw [hs, Array.getElem?_setIfInBounds_ne hst]⟩

lemma untouched_of_task_alone {j : Nat} {b : Call} (hc : p.calls[i]? = some c)
    (hq : q.calls = p.calls.setIfInBounds j b) (hij : j ≠ i) (hs : q.sessions = p.sessions) :
    Untouched p q i s c :=
  ⟨⟨c.phase, by rw [hq, Array.getElem?_setIfInBounds_ne hij, hc]⟩, by rw [hs]⟩

lemma untouched_of_calls (hc : p.calls[i]? = some c) (hq : q.calls = p.calls)
    (hs : q.sessions[s]? = p.sessions[s]?) : Untouched p q i s c :=
  ⟨⟨c.phase, by rw [hq, hc]⟩, hs⟩

/-- Whatever happens that is not an event of the request leaves it as it is. -/
theorem untouched_of_move (hp : Custody p) (h : Move p e q) (hc : p.calls[i]? = some c)
    (hs : c.task.session? = some s) (he : e.isOf i s = false) : Untouched p q i s c := by
  -- another task has another session
  have hother {j t : Nat} {b : Call} (hb : p.calls[j]? = some b) (ht : b.task.session? = some t)
      (hij : j ≠ i) : t ≠ s := by
    rintro rfl
    exact hij (task_unique hp hc hs hb ht)
  have hcloser {k t : Nat} {f : CloserPhase} (hf : p.closers[k]? = some f)
      (ht : t ∈ f.sessions) : t ≠ s := by
    rintro rfl
    exact not_mem_closer hp hc hs hf ht
  cases h with
  | connected | close | shut | lock | allClosed => exact untouched_of_calls hc rfl rfl
  | arrive script timeout => exact ⟨⟨c.phase, call_after_arrive hc script timeout⟩, rfl⟩
  | enter j b hb | turnAway j b hb | refuse j b hb | ask j b hb | giveUp j b hb | permit j b hb
  | miss j b hb | take j b _ _ hb | deliver j b _ hb | expireWaiting j b hb
  | expireRunning j b hb | abandonWaiting j b hb | abandonEarly j b hb | abandonRunning j b hb =>
    exact untouched_of_phase hc hb rfl rfl
  | lend j b t hb hph =>
    have hij : j ≠ i := by
      rintro rfl
      rw [hc] at hb
      cases hb
      rw [hp.early j c hc (by rw [hph]; rfl)] at hs
      cases hs
    exact untouched_of_task_alone hc rfl hij rfl
  | begin j _ b t x hb ht | settle j b t x _ hb ht | lapse j b t x hb ht
  | reject j b t x _ hb ht | drop j b t x _ hb ht | drain j b t x hb ht =>
    have hij : j ≠ i := by simpa [Event.isOf] using he
    exact untouched_of_task hc rfl hij rfl (hother hb (by rw [ht]; rfl) hij)
  | uncount j b t _ hb | putBack j b t _ _ hb | repay j b _ hb | sealUp j b _ hb =>
    have hij : j ≠ i := by simpa [Event.isOf] using he
    exact untouched_of_task_alone hc rfl hij rfl
  | endNext k t rest x hk | endOne k t rest x hk =>
    exact untouched_of_calls hc rfl
      (Array.getElem?_setIfInBounds_ne (hcloser hk List.mem_cons_self))
  | session t event x y hx =>
    have hst : t ≠ s := by simpa [Event.isOf] using he
    exact untouched_of_calls hc rfl (Array.getElem?_setIfInBounds_ne hst)

end Untouched

section Reopened

/-- The same pool before anybody shut it. -/
def reopened (p : Pool) : Pool := { p with isOpen := true }

lemma sessionStep_reopened (p : Pool) (s : Nat) (event : Session.Event) :
    p.reopened.sessionStep? s event = (p.sessionStep? s event).map reopened := by
  rw [sessionStep?, sessionStep?]
  change p.sessions[s]?.bind _ = (p.sessions[s]?.bind _).map reopened
  cases p.sessions[s]? with
  | none => rfl
  | some x =>
    change (x.step? p.config p.now event).bind _ = ((x.step? p.config p.now event).bind _).map _
    cases x.step? p.config p.now event <;> rfl

/-- A session step of a task, and what the task does after it. -/
lemma bind_sessionStep_reopened {s : Nat} {event : Session.Event} {f g : Pool → Option Pool}
    (h : ∀ q, g q.reopened = (f q).map reopened) :
    (p.reopened.sessionStep? s event).bind g = ((p.sessionStep? s event).bind f).map reopened := by
  rw [sessionStep_reopened]
  cases p.sessionStep? s event with
  | none => rfl
  | some q => exact h q

/-- Until a task places its session, it does not matter to the request whether the pool has been
shut. -/
theorem act_reopened {i s : Nat} {c : Call} (he : e.isOf i s = true)
    (hc : p.calls[i]? = some c) (hplace : ∀ t outcome, c.task ≠ .placing t outcome) :
    p.reopened.act? e = (p.act? e).map reopened := by
  have hc' : p.reopened.calls[i]? = some c := hc
  cases e with
  | begin j id =>
    obtain rfl : j = i := by simpa [Event.isOf] using he
    simp only [act?, begin?, hc, hc', Option.bind_eq_bind, Option.bind_some]
    split
    · exact bind_sessionStep_reopened fun _ => rfl
    · rfl
  | task j =>
    obtain rfl : j = i := by simpa [Event.isOf] using he
    simp only [act?, taskStep?, hc, hc', Option.bind_eq_bind, Option.bind_some]
    split
    · rename_i t _
      change (p.outcome? t).bind _ = ((p.outcome? t).bind _).map reopened
      cases p.outcome? t with
      | none => rfl
      | some outcome => exact bind_sessionStep_reopened fun _ => rfl
    · rename_i t _
      change (if p.hasEnded t then _ else none) = (if p.hasEnded t then _ else none).map reopened
      cases p.hasEnded t with
      | false => rfl
      | true => exact bind_sessionStep_reopened fun _ => rfl
    · rfl
    · rename_i t outcome ht
      exact absurd ht (hplace t outcome)
    · rfl
    · rename_i t _ _
      change (if p.hasEnded t then _ else none) = (if p.hasEnded t then _ else none).map reopened
      cases p.hasEnded t with
      | false => rfl
      | true => exact bind_sessionStep_reopened fun _ => rfl
    · rfl
    all_goals rfl
  | drain j =>
    obtain rfl : j = i := by simpa [Event.isOf] using he
    simp only [act?, drain?, hc, hc', Option.bind_eq_bind, Option.bind_some]
    split
    · rename_i t _
      have hclaim : (p.reopened.sessionStep? t .claim).isSome =
          (p.sessionStep? t .claim).isSome := by
        rw [sessionStep_reopened, Option.isSome_map]
      rw [hclaim]
      change (if p.now < c.drainDeadline ∨ (p.outcome? t).isSome ∨
          (p.sessionStep? t .claim).isSome then none else _) =
        (if p.now < c.drainDeadline ∨ (p.outcome? t).isSome ∨
          (p.sessionStep? t .claim).isSome then none else _).map reopened
      split
      · rfl
      · exact bind_sessionStep_reopened fun _ => bind_sessionStep_reopened fun _ => rfl
    · rfl
  | session t event =>
    simp only [act?]
    split
    · exact sessionStep_reopened p t event
    · rfl
  | _ => cases he

end Reopened

section Delivered

/-- A caller whose task has begun waits for it, has gone away, or has returned: with the outcome of
the task, or because its deadline had passed. -/
def Delivered (now : Instant) (c : Call) : Prop :=
  c.task.isThere = true → c.phase = .running ∨ c.phase = .abandoned ∨
    ∃ outcome, c.phase = .returned outcome ∧
      (c.task = .finished outcome ∨
        (outcome = .error (timedOutAfter c.timeout) ∧ c.deadline ≤ now))

/-- While the task has not finished, its next step changes nothing for the caller. -/
lemma Delivered.later {now : Instant} {c : Call} (h : Delivered now c) (task : TaskPhase)
    (ht : c.task.isThere = true) (hf : ∀ outcome, c.task ≠ .finished outcome) :
    Delivered now { c with task } := by
  intro _
  rcases h ht with hphase | hphase | ⟨outcome, hphase, hfin | hlate⟩
  · exact .inl hphase
  · exact .inr (.inl hphase)
  · exact absurd hfin (hf outcome)
  · exact .inr (.inr ⟨outcome, hphase, .inr hlate⟩)

lemma delivered_of_move (hp : Custody p) (h : Move p e q)
    (hold : ∀ (i : Nat) (c : Call), p.calls[i]? = some c → Delivered p.now c) :
    ∀ (i : Nat) (c : Call), q.calls[i]? = some c → Delivered q.now c := by
  rw [now_of_move h]
  have hearly {i : Nat} {c : Call} {phase : CallPhase} (hc : p.calls[i]? = some c)
      (hph : c.phase.isEarly = true) : Delivered p.now { c with phase } := by
    intro ht
    change c.task.isThere = true at ht
    rw [hp.early i c hc hph] at ht
    cases ht
  cases h with
  | arrive => exact forall_push hold fun ht => by cases ht
  | enter i c hc hph | turnAway i c hc hph | refuse i c hc hph | ask i c hc hph
  | giveUp i c hc hph | permit i c hc hph | miss i c hc hph | take i c _ _ hc hph
  | expireWaiting i c hc hph | abandonWaiting i c hc hph | abandonEarly i c hc hph =>
    exact forall_setIfInBounds hold (hearly hc (by rw [hph]; rfl))
  | lend => exact forall_setIfInBounds hold fun _ => .inl rfl
  | deliver i c outcome hc hph ht =>
    exact forall_setIfInBounds hold fun _ => .inr (.inr ⟨outcome, rfl, .inl ht⟩)
  | expireRunning i c hc hph hd =>
    exact forall_setIfInBounds hold fun _ => .inr (.inr ⟨_, rfl, .inr ⟨rfl, hd⟩⟩)
  | abandonRunning => exact forall_setIfInBounds hold fun _ => .inr (.inl rfl)
  | begin i _ c _ _ hc ht | settle i c _ _ _ hc ht | lapse i c _ _ hc ht | uncount i c _ _ hc ht
  | putBack i c _ _ _ hc ht | reject i c _ _ _ hc ht | repay i c _ hc ht
  | drop i c _ _ _ hc ht | sealUp i c _ hc ht | drain i c _ _ hc ht =>
    exact forall_setIfInBounds hold
      ((hold i c hc).later _ (by rw [ht]; rfl) (fun _ => by rw [ht]; nofun))
  | connected | close | shut | lock | allClosed | endNext | endOne | session => exact hold

theorem delivered_of_history (h : History config start log p) :
    ∀ (i : Nat) (c : Call), p.calls[i]? = some c → Delivered p.now c := by
  induction h with
  | opening =>
    intro i c hc
    simp [Pool.opening] at hc
  | act h he ih => exact delivered_of_move (custody_of_history h) (move_of_act he) ih
  | wait _ hl ih =>
    intro i c hc ht
    rcases ih i c hc ht with hphase | hphase | ⟨outcome, hphase, hfin | ⟨ho, hd⟩⟩
    · exact .inl hphase
    · exact .inr (.inl hphase)
    · exact .inr (.inr ⟨outcome, hphase, .inl hfin⟩)
    · exact .inr (.inr ⟨outcome, hphase, .inr ⟨ho, Instant.le_trans hd hl⟩⟩)

end Delivered

section Borne

variable {i s : Nat} {c : Call} {x : Session} {outcome : Outcome}

/-- The outcome of a call is settled: its task has it, or its session has nothing left to do for the
request but to close the channel. -/
def Bears (p : Pool) (i : Nat) (outcome : Outcome) : Prop :=
  ∃ c, p.calls[i]? = some c ∧ (c.task.outcome? = some outcome ∨
    ∃ s x, c.task = .submitting s ∧ p.sessions[s]? = some x ∧ x.activity.due? = some outcome)

lemma due_of_proceeds {now : Instant} {event : Session.Event} {y : Session}
    (h : x.Proceeds config now event y) (hx : x.activity.due? = some outcome) :
    y.activity.due? = some outcome := by
  cases h with
  | closedAfter e ha =>
    rw [ha] at hx
    exact hx
  | keepalive => exact hx
  | sendFailed c _ hs =>
    cases ha : x.activity <;> simp_all [Activity.sending?, Activity.due?]
  | _ => simp_all [Activity.due?]

/-- A task that knows its outcome keeps it whatever happens. -/
lemma outcome_of_move (hp : Custody p) (h : Move p e q) (hc : p.calls[i]? = some c)
    (ho : c.task.outcome? = some outcome) :
    ∃ c', q.calls[i]? = some c' ∧ c'.task.outcome? = some outcome := by
  have hset {j : Nat} {b b' : Call} (hb : p.calls[j]? = some b)
      (hq : q.calls = p.calls.setIfInBounds j b')
      (hkeep : b.task.outcome? = some outcome → b'.task.outcome? = some outcome) :
      ∃ c', q.calls[i]? = some c' ∧ c'.task.outcome? = some outcome := by
    rcases call_after_set hc hb hq with ⟨rfl, hnext⟩ | ⟨-, hnext⟩
    · exact ⟨b', hnext, hkeep ho⟩
    · exact ⟨c, hnext, ho⟩
  cases h with
  | connected | close | shut | lock | allClosed | endNext | endOne | session =>
    exact ⟨c, hc, ho⟩
  | arrive => exact ⟨c, call_after_arrive hc _ _, ho⟩
  | enter _ _ hb | turnAway _ _ hb | refuse _ _ hb | ask _ _ hb | giveUp _ _ hb | permit _ _ hb
  | miss _ _ hb | take _ _ _ _ hb | deliver _ _ _ hb | expireWaiting _ _ hb
  | expireRunning _ _ hb | abandonWaiting _ _ hb | abandonEarly _ _ hb | abandonRunning _ _ hb =>
    exact hset hb rfl fun h => h
  | lend j b _ hb hph =>
    refine hset hb rfl fun h => ?_
    rw [hp.early j b hb (by rw [hph]; rfl)] at h
    cases h
  | begin _ _ _ _ _ hb ht | settle _ _ _ _ _ hb ht | lapse _ _ _ _ hb ht
  | drain _ _ _ _ hb ht =>
    refine hset hb rfl fun h => ?_
    rw [ht] at h
    cases h
  | uncount _ _ _ _ hb ht | putBack _ _ _ _ _ hb ht | reject _ _ _ _ _ hb ht
  | repay _ _ _ hb ht | sealUp _ _ _ hb ht =>
    refine hset hb rfl fun h => ?_
    rw [ht] at h
    exact h
  | drop _ _ _ _ _ hb ht =>
    refine hset hb rfl fun h => ?_
    rw [ht] at h
    dsimp only
    split <;> exact h

/-- A settled outcome stays, whatever happens to the pool, unless the drain deadline cuts off the
closing of the channel. -/
theorem bears_of_move (hp : Custody p) (h : Move p e q) (hb : p.Bears i outcome)
    (he : e ≠ .drain i) : q.Bears i outcome := by
  obtain ⟨c, hc, ho | ⟨s, x, ht, hx, hdue⟩⟩ := hb
  · obtain ⟨c', hc', ho'⟩ := outcome_of_move hp h hc ho
    exact ⟨c', hc', .inl ho'⟩
  · have hlt : i < p.calls.size := (Array.getElem?_eq_some_iff.1 hc).1
    cases hof : e.isOf i s with
    | false =>
      obtain ⟨⟨phase, hc'⟩, hx'⟩ := untouched_of_move hp h hc (by rw [ht]; rfl) hof
      exact ⟨_, hc', .inr ⟨s, x, ht, by rw [hx', hx], hdue⟩⟩
    | true =>
      cases h with
      | begin j _ b _ _ hb ht' | lapse j b _ _ hb ht' | uncount j b _ _ hb ht'
      | putBack j b _ _ _ hb ht' | reject j b _ _ _ hb ht' | repay j b _ hb ht'
      | drop j b _ _ _ hb ht' | sealUp j b _ hb ht' =>
        obtain rfl : j = i := by simpa [Event.isOf] using hof
        rw [hc] at hb
        cases hb
        rw [ht] at ht'
        cases ht'
      | settle j b t y outcome' hb ht' hy hf =>
        obtain rfl : j = i := by simpa [Event.isOf] using hof
        rw [hc] at hb
        cases hb
        rw [ht] at ht'
        cases ht'
        rw [hx] at hy
        cases hy
        rw [hf] at hdue
        cases hdue
        exact ⟨_, Array.getElem?_setIfInBounds_self_of_lt hlt, .inl rfl⟩
      | drain j =>
        obtain rfl : j = i := by simpa [Event.isOf] using hof
        exact absurd rfl he
      | session t event y z hy hyz =>
        obtain rfl : t = s := by simpa [Event.isOf] using hof
        rw [hx] at hy
        cases hy
        have hs : t < p.sessions.size := (Array.getElem?_eq_some_iff.1 hx).1
        exact ⟨c, hc, .inr ⟨t, z, ht, Array.getElem?_setIfInBounds_self_of_lt hs,
          due_of_proceeds hyz hdue⟩⟩
      | _ => cases hof

end Borne

section Waiting

variable {i s : Nat} {c : Call} {x : Session}

lemma act_claimRequest {id : Uuid} {script : String} (hx : p.sessions[s]? = some x)
    (ha : x.activity = .claimingRequest id script) (hk : x.keepalive.isPinging = false) :
    (p.act? (.session s .claim)).isSome = true := by
  obtain ⟨y, hy⟩ : ∃ y, x.step? p.config p.now .claim = some y := by
    simp only [Session.step?, hk, Session.claim?, ha]
    cases x.hasChannel with
    | false => exact ⟨_, rfl⟩
    | true => exact ⟨_, rfl⟩
  simp [act?, isOwnEvent, sessionStep_of_step hx hy]

/-- In a quiet pool, a session that serves a task waits for its channel. -/
lemma serving_waits_of_quiet (hq : p.isQuiet = true) (hc : p.calls[i]? = some c)
    (ht : c.task = .submitting s) (hx : p.sessions[s]? = some x)
    (hstage : x.activity.stage = .serving) : x.WaitsForChannel := by
  have hi : i < p.calls.size := (Array.getElem?_eq_some_iff.1 hc).1
  have hs : s < p.sessions.size := (Array.getElem?_eq_some_iff.1 hx).1
  have hnone := steps_eq_none_of_quiet hq hi hs
  cases ha : x.activity with
  | claimingRequest id script =>
    refine .inr ⟨by rw [ha]; rfl, ?_⟩
    by_contra hk
    have hstep := act_claimRequest hx ha (by simpa using hk)
    rw [hnone _ (by simp [ownSteps])] at hstep
    cases hstep
  | finished outcome =>
    have hstep := act_settle hc ht hx ha
    rw [hnone _ (by simp [ownSteps])] at hstep
    cases hstep
  | sendingRequest | receiving | sendingPong | sendingAnswer | closingAfter =>
    exact .inl (by rw [ha]; rfl)
  | opening | resting | claimingEnd | closing | ended =>
    rw [ha] at hstage
    cases hstage

/-- In a quiet pool, a session that a task disconnects waits for its channel. -/
lemma ending_waits_of_quiet (hq : p.isQuiet = true) (hc : p.calls[i]? = some c)
    (hx : p.sessions[s]? = some x) (he : x.IsEnding)
    (hended : x.activity = .ended → (p.act? (.task i)).isSome = true) : x.WaitsForChannel := by
  have hi : i < p.calls.size := (Array.getElem?_eq_some_iff.1 hc).1
  have hs : s < p.sessions.size := (Array.getElem?_eq_some_iff.1 hx).1
  rcases ending_goes_on hx he hended with hawait | ⟨event, hown, hstep⟩
  · exact hawait.waitsForChannel
  · rw [steps_eq_none_of_quiet hq hi hs event (List.mem_cons_of_mem _ hown)] at hstep
    cases hstep

/-- In a quiet pool, whatever the task of a call has not finished waits for the channel of its
session. -/
theorem waits_for_channel_of_quiet (hp : Custody p) (hr : Ready p) (hq : p.isQuiet = true)
    (hc : p.calls[i]? = some c) (ht : c.task.isThere = true) :
    (∃ outcome, c.task = .finished outcome) ∨
      ∃ s x, c.task.session? = some s ∧ p.sessions[s]? = some x ∧ x.WaitsForChannel := by
  have hi : i < p.calls.size := (Array.getElem?_eq_some_iff.1 hc).1
  have hnone : p.act? (.task i) = none :=
    act_eq_none_of_quiet hq (by simp [internalEvents, timerEvents, hi])
  have hrole (s : Nat) (r : Role) (h : c.task.holdings = [(s, r)]) :
      ∃ x, p.sessions[s]? = some x ∧ Role.Admits (some r) x :=
    admits_of_role hp (role_of_task hp hc (by rw [h]; exact List.mem_singleton_self _))
  cases hphase : c.task with
  | none =>
    rw [hphase] at ht
    cases ht
  | spawned s =>
    obtain ⟨t, hsub⟩ := submitting_of_quiet hp hr hq hc (by rw [hphase]; rfl)
    rw [hphase] at hsub
    cases hsub
  | submitting s =>
    obtain ⟨x, hx, hstage⟩ := hrole s .serving (by rw [hphase]; rfl)
    exact .inr ⟨s, x, rfl, hx, serving_waits_of_quiet hq hc hphase hx hstage⟩
  | expiring s =>
    obtain ⟨x, hx, he⟩ := hrole s .ending (by rw [hphase]; rfl)
    exact .inr ⟨s, x, rfl, hx,
      ending_waits_of_quiet hq hc hx he fun ha => act_lapse hc hphase hx ha⟩
  | discarding s outcome =>
    obtain ⟨x, hx, he⟩ := hrole s .ending (by rw [hphase]; rfl)
    exact .inr ⟨s, x, rfl, hx,
      ending_waits_of_quiet hq hc hx he fun ha => act_drop hc hphase hx ha⟩
  | placing s outcome =>
    obtain ⟨x, hx, ha⟩ := hrole s .served (by rw [hphase]; rfl)
    have hstep := act_place hc hphase hx ha
    rw [hnone] at hstep
    cases hstep
  | releasing s outcome =>
    have hstep := act_uncount hc hphase
    rw [hnone] at hstep
    cases hstep
  | permitting | sealing => simp [act?, taskStep?, hc, hphase] at hnone
  | finished outcome => exact .inl ⟨outcome, rfl⟩

end Waiting

/-- How the requests of a pool go on: a task and its session by their own events alone, which do the
same in a pool that has been shut; not at all only while the channel is waited for; to the outcome
that the exchange had; and to the caller as long as it waits. -/
structure Undisturbed (p : Pool) : Prop where
  apart : ∀ (i s : Nat) (c : Call) (e : Event) (q : Pool), p.calls[i]? = some c →
    c.task.session? = some s → p.act? e = some q → e.isOf i s = false → Untouched p q i s c
  alike : ∀ (i s : Nat) (c : Call) (e : Event), p.calls[i]? = some c → e.isOf i s = true →
    (∀ t outcome, c.task ≠ .placing t outcome) →
    p.reopened.act? e = (p.act? e).map reopened
  waits : p.isQuiet = true → ∀ (i : Nat) (c : Call), p.calls[i]? = some c →
    c.task.isThere = true → (∃ outcome, c.task = .finished outcome) ∨
      ∃ s x, c.task.session? = some s ∧ p.sessions[s]? = some x ∧ x.WaitsForChannel
  borne : ∀ (i : Nat) (outcome : Outcome) (e : Event) (q : Pool), p.Bears i outcome →
    p.act? e = some q → e ≠ .drain i → q.Bears i outcome
  delivered : ∀ (i : Nat) (c : Call), p.calls[i]? = some c → Delivered p.now c

theorem undisturbed_of_history (h : History config start log p) : Undisturbed p := by
  have hp := custody_of_history h
  refine ⟨?_, ?_, ?_, ?_, delivered_of_history h⟩
  · intro i s c e q hc hs he hof
    exact untouched_of_move hp (move_of_act he) hc hs hof
  · intro i s c e hc hof hplace
    exact act_reopened hof hc hplace
  · intro hq i c hc ht
    exact waits_for_channel_of_quiet hp (ready_of_history h) hq hc ht
  · intro i outcome e q hb he hdrain
    exact bears_of_move hp (move_of_act he) hb hdrain

end Pool

end GraphClient
