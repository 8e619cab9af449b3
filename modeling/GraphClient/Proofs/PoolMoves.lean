import GraphClient.Proofs.SessionStages

/-!
# Moves of a pool

Everything that an event can do to a pool, one constructor for each way in which a caller, a task, a
closer or a session goes on. What holds of every move holds under every interleaving.
-/

namespace GraphClient

namespace Pool

/-- What an event other than the passage of time does to a pool. -/
inductive Move (p : Pool) : Event → Pool → Prop
  | connected (hr : p.ready = false) (ho : ∀ x ∈ p.sessions, x.activity.isOpening = false) :
      Move p .connected { p with ready := true }
  | arrive (script : String) (timeout : Duration) (hr : p.ready = true) :
      Move p (.arrive script timeout) (p.arrive script timeout)
  | enter (i : Nat) (c : Call) (hc : p.calls[i]? = some c) (hp : c.phase = .arrived)
      (ho : p.isOpen = true) :
      Move p (.call i) (p.setCall i { c with phase := .admitted })
  | turnAway (i : Nat) (c : Call) (hc : p.calls[i]? = some c) (hp : c.phase = .arrived)
      (ho : p.isOpen = false) :
      Move p (.call i)
        (p.setCall i { c with phase := .returned (.error (.poolExhausted "Pool is closed")) })
  | refuse (i : Nat) (c : Call) (hc : p.calls[i]? = some c) (hp : c.phase = .admitted)
      (hs : p.semaphore.closed = true) :
      Move p (.call i) (p.setCall i { c with phase := .returned (.error p.exhausted) })
  | ask (i : Nat) (c : Call) (hc : p.calls[i]? = some c) (hp : c.phase = .admitted)
      (hs : p.semaphore.closed = false) :
      Move p (.call i)
        ({ p with semaphore := p.semaphore.ask i }.setCall i { c with phase := .waiting })
  | giveUp (i : Nat) (c : Call) (hc : p.calls[i]? = some c) (hp : c.phase = .waiting)
      (hs : p.semaphore.closed = true) :
      Move p (.call i)
        ({ p with semaphore := p.semaphore.leave i }.setCall i
          { c with phase := .returned (.error p.exhausted) })
  | permit (i : Nat) (c : Call) (hc : p.calls[i]? = some c) (hp : c.phase = .waiting)
      (hs : p.semaphore.closed = false) (hg : i ∈ p.semaphore.granted) :
      Move p (.call i)
        ({ p with semaphore := p.semaphore.consume i }.setCall i { c with phase := .permitted })
  | miss (i : Nat) (c : Call) (hc : p.calls[i]? = some c) (hp : c.phase = .permitted)
      (hi : p.idle = []) :
      Move p (.call i) (p.setCall i { c with phase := .returned (.error p.exhausted) })
  | take (i : Nat) (c : Call) (s : Nat) (rest : List Nat) (hc : p.calls[i]? = some c)
      (hp : c.phase = .permitted) (hi : p.idle = s :: rest) :
      Move p (.call i) ({ p with idle := rest }.setCall i { c with phase := .holding s })
  | lend (i : Nat) (c : Call) (s : Nat) (hc : p.calls[i]? = some c) (hp : c.phase = .holding s) :
      Move p (.call i) (p.lend i c s)
  | deliver (i : Nat) (c : Call) (outcome : Outcome) (hc : p.calls[i]? = some c)
      (hp : c.phase = .running) (ht : c.task = .finished outcome) :
      Move p (.call i) (p.setCall i { c with phase := .returned outcome })
  | expireWaiting (i : Nat) (c : Call) (hc : p.calls[i]? = some c) (hp : c.phase = .waiting)
      (hd : c.deadline ≤ p.now) (hn : p.callStep? i = none) :
      Move p (.expire i)
        ({ p with semaphore := p.semaphore.leave i, timeouts := p.timeouts + 1 }.setCall i
          { c with phase := .returned (.error (noSessionWithin c.timeout)) })
  | expireRunning (i : Nat) (c : Call) (hc : p.calls[i]? = some c) (hp : c.phase = .running)
      (hd : c.deadline ≤ p.now) (hn : p.callStep? i = none) :
      Move p (.expire i)
        ({ p with timeouts := p.timeouts + 1 }.setCall i
          { c with phase := .returned (.error (timedOutAfter c.timeout)) })
  | abandonWaiting (i : Nat) (c : Call) (hc : p.calls[i]? = some c) (hp : c.phase = .waiting) :
      Move p (.abandon i)
        ({ p with semaphore := p.semaphore.leave i }.setCall i { c with phase := .abandoned })
  | abandonEarly (i : Nat) (c : Call) (hc : p.calls[i]? = some c) (hp : c.phase = .arrived) :
      Move p (.abandon i) (p.setCall i { c with phase := .abandoned })
  | abandonRunning (i : Nat) (c : Call) (hc : p.calls[i]? = some c) (hp : c.phase = .running) :
      Move p (.abandon i) (p.setCall i { c with phase := .abandoned })
  | begin (i : Nat) (id : Uuid) (c : Call) (s : Nat) (x : Session) (hc : p.calls[i]? = some c)
      (ht : c.task = .spawned s) (hx : p.sessions[s]? = some x) (hr : x.activity = .resting) :
      Move p (.begin i id)
        ((p.setSession s { x with activity := .claimingRequest id c.script }).setCall i
          { c with task := .submitting s })
  | settle (i : Nat) (c : Call) (s : Nat) (x : Session) (outcome : Outcome)
      (hc : p.calls[i]? = some c) (ht : c.task = .submitting s) (hx : p.sessions[s]? = some x)
      (hf : x.activity = .finished outcome) :
      Move p (.task i)
        ((p.setSession s { x with activity := .resting }).setCall i
          { c with task := .releasing s outcome })
  | lapse (i : Nat) (c : Call) (s : Nat) (x : Session) (hc : p.calls[i]? = some c)
      (ht : c.task = .expiring s) (hx : p.sessions[s]? = some x) (hf : x.activity = .ended) :
      Move p (.task i)
        ((p.setSession s { x with activity := .resting }).setCall i
          { c with task := .releasing s (.error notDrained) })
  | uncount (i : Nat) (c : Call) (s : Nat) (outcome : Outcome) (hc : p.calls[i]? = some c)
      (ht : c.task = .releasing s outcome) :
      Move p (.task i)
        ({ p with inUse := p.inUse - 1 }.setCall i { c with task := .placing s outcome })
  | putBack (i : Nat) (c : Call) (s : Nat) (x : Session) (outcome : Outcome)
      (hc : p.calls[i]? = some c) (ht : c.task = .placing s outcome)
      (hx : p.sessions[s]? = some x) (hf : x.isConnected = true) (ho : p.isOpen = true) :
      Move p (.task i)
        ({ p with idle := p.idle ++ [s] }.setCall i { c with task := .permitting outcome })
  | reject (i : Nat) (c : Call) (s : Nat) (x : Session) (outcome : Outcome)
      (hc : p.calls[i]? = some c) (ht : c.task = .placing s outcome)
      (hx : p.sessions[s]? = some x) (hf : ¬(x.isConnected = true ∧ p.isOpen = true))
      (hr : x.activity = .resting) :
      Move p (.task i)
        ((p.setSession s { x with stopping := true, activity := .claimingEnd }).setCall i
          { c with task := .discarding s outcome })
  | repay (i : Nat) (c : Call) (outcome : Outcome) (hc : p.calls[i]? = some c)
      (ht : c.task = .permitting outcome) :
      Move p (.task i)
        ({ p with semaphore := p.semaphore.release }.setCall i { c with task := .finished outcome })
  | drop (i : Nat) (c : Call) (s : Nat) (x : Session) (outcome : Outcome)
      (hc : p.calls[i]? = some c) (ht : c.task = .discarding s outcome)
      (hx : p.sessions[s]? = some x) (hf : x.activity = .ended) :
      Move p (.task i)
        ({ p.setSession s { x with activity := .resting } with
            live := p.live - 1, discarded := p.discarded + 1 }.setCall i
          { c with task := if p.live - 1 = 0 then .sealing outcome else .finished outcome })
  | sealUp (i : Nat) (c : Call) (outcome : Outcome) (hc : p.calls[i]? = some c)
      (ht : c.task = .sealing outcome) :
      Move p (.task i)
        ({ p with semaphore := p.semaphore.close }.setCall i { c with task := .finished outcome })
  | drain (i : Nat) (c : Call) (s : Nat) (x : Session) (hc : p.calls[i]? = some c)
      (ht : c.task = .submitting s) (hd : c.drainDeadline ≤ p.now) (hx : p.sessions[s]? = some x)
      (hr : x.activity.isRequest = true) (hk : x.step? p.config p.now .claim = none) :
      Move p (.drain i)
        ((p.setSession s { x with stopping := true, activity := .claimingEnd }).setCall i
          { c with task := .expiring s })
  | close (hr : p.ready = true) : Move p .close { p with closers := p.closers ++ [.arrived] }
  | shut (k : Nat) (hk : p.closers[k]? = some .arrived) :
      Move p (.closer k)
        { p with isOpen := false, idle := [], closers := p.closers.set k (.drained p.idle) }
  | lock (k : Nat) (sessions : List Nat) (hk : p.closers[k]? = some (.drained sessions)) :
      Move p (.closer k)
        { p with
          semaphore := p.semaphore.close
          closers := p.closers.set k (.clearing sessions) }
  | allClosed (k : Nat) (hk : p.closers[k]? = some (.clearing [])) :
      Move p (.closer k) { p with closers := p.closers.set k .done }
  | endNext (k : Nat) (s : Nat) (rest : List Nat) (x : Session)
      (hk : p.closers[k]? = some (.clearing (s :: rest))) (hx : p.sessions[s]? = some x)
      (hr : x.activity = .resting) :
      Move p (.closer k)
        { p.setSession s { x with stopping := true, activity := .claimingEnd } with
          closers := p.closers.set k (.disconnecting s rest) }
  | endOne (k : Nat) (s : Nat) (rest : List Nat) (x : Session)
      (hk : p.closers[k]? = some (.disconnecting s rest)) (hx : p.sessions[s]? = some x)
      (hf : x.activity = .ended) :
      Move p (.closer k)
        { p.setSession s { x with activity := .resting } with
          live := p.live - 1, closers := p.closers.set k (.clearing rest) }
  | session (s : Nat) (e : Session.Event) (x y : Session) (hx : p.sessions[s]? = some x)
      (he : x.Proceeds p.config p.now e y) : Move p (.session s e) (p.setSession s y)

variable {p q : Pool} {i : Nat}

@[simp] lemma setCall_idle (c : Call) : (p.setCall i c).idle = p.idle := rfl

@[simp] lemma setSession_sessions (x : Session) :
    (p.setSession i x).sessions = p.sessions.setIfInBounds i x := rfl

lemma sessionStep_eq_some {s : Nat} {e : Session.Event} (h : p.sessionStep? s e = some q) :
    ∃ x y, p.sessions[s]? = some x ∧ x.step? p.config p.now e = some y ∧ q = p.setSession s y := by
  obtain ⟨x, hx, h⟩ := Option.bind_eq_some_iff.1 h
  obtain ⟨y, hy, h⟩ := Option.bind_eq_some_iff.1 h
  exact ⟨x, y, hx, hy, by cases h; rfl⟩

lemma sessionStep_of_step {s : Nat} {e : Session.Event} {x y : Session}
    (hx : p.sessions[s]? = some x) (h : x.step? p.config p.now e = some y) :
    p.sessionStep? s e = some (p.setSession s y) := by
  rw [sessionStep?, hx]
  change (x.step? p.config p.now e).bind _ = _
  rw [h]
  rfl

lemma collect_eq_some {x y : Session} {config : ClientConfig} {now : Instant}
    (h : x.step? config now .collect = some y) : y = { x with activity := .resting } := by
  unfold Session.step? at h
  dsimp only at h
  split at h <;> cases h <;> rfl

lemma disconnect_eq_some {x y : Session} {config : ClientConfig} {now : Instant}
    (h : x.step? config now .disconnect = some y) :
    x.activity = .resting ∧ y = { x with stopping := true, activity := .claimingEnd } := by
  unfold Session.step? at h
  dsimp only at h
  split at h <;> cases h
  exact ⟨by assumption, rfl⟩

lemma outcome_eq_some {s : Nat} {outcome : Outcome} (h : p.outcome? s = some outcome) :
    ∃ x, p.sessions[s]? = some x ∧ x.activity = .finished outcome := by
  obtain ⟨x, hx, h⟩ := Option.bind_eq_some_iff.1 h
  refine ⟨x, hx, ?_⟩
  cases ha : x.activity <;> simp_all [Activity.outcome?]

lemma hasEnded_iff {s : Nat} {x : Session} (hx : p.sessions[s]? = some x) :
    p.hasEnded s = true ↔ x.activity = .ended := by
  unfold hasEnded
  rw [hx]
  cases ha : x.activity <;> simp [ha, Activity.hasEnded]

lemma move_of_callStep (h : p.callStep? i = some q) : Move p (.call i) q := by
  obtain ⟨c, hc, h⟩ := Option.bind_eq_some_iff.1 h
  split at h <;> rename_i hp
  · split at h <;> rename_i ho <;> cases h
    · exact .enter i c hc hp ho
    · exact .turnAway i c hc hp (by simpa using ho)
  · split at h <;> rename_i hs <;> cases h
    · exact .refuse i c hc hp hs
    · exact .ask i c hc hp (by simpa using hs)
  · split at h <;> rename_i hs
    · cases h
      exact .giveUp i c hc hp hs
    · split at h
      · rename_i hg
        cases h
        exact .permit i c hc hp (by simpa using hs) hg
      · cases h
  · cases h
    unfold takeIdle
    split <;> rename_i hi
    · exact .miss i c hc hp hi
    · exact .take i c _ _ hc hp hi
  · cases h
    exact .lend i c _ hc hp
  · split at h <;> rename_i ht <;> cases h
    exact .deliver i c _ hc hp ht
  · cases h
  · cases h

lemma move_of_expire (h : p.expire? i = some q) : Move p (.expire i) q := by
  obtain ⟨c, hc, h⟩ := Option.bind_eq_some_iff.1 h
  split at h <;> rename_i hd
  · cases h
  · have hle : c.deadline ≤ p.now := Nat.le_of_not_lt fun hlt => hd (.inl hlt)
    have hn : p.callStep? i = none := by
      rw [← Option.not_isSome_iff_eq_none]
      exact fun hs => hd (.inr hs)
    split at h <;> rename_i hp <;> cases h
    · exact .expireWaiting i c hc hp hle hn
    · exact .expireRunning i c hc hp hle hn

lemma move_of_abandon (h : p.abandon? i = some q) : Move p (.abandon i) q := by
  obtain ⟨c, hc, h⟩ := Option.bind_eq_some_iff.1 h
  split at h <;> rename_i hp <;> cases h
  · exact .abandonWaiting i c hc hp
  · exact .abandonEarly i c hc hp
  · exact .abandonRunning i c hc hp

lemma move_of_begin {id : Uuid} (h : p.begin? i id = some q) : Move p (.begin i id) q := by
  obtain ⟨c, hc, h⟩ := Option.bind_eq_some_iff.1 h
  split at h <;> rename_i ht
  · obtain ⟨r, hr, h⟩ := Option.bind_eq_some_iff.1 h
    obtain ⟨x, y, hx, hy, rfl⟩ := sessionStep_eq_some hr
    cases h
    unfold Session.step? at hy
    dsimp only at hy
    split at hy <;> rename_i ha <;> cases hy
    exact .begin i id c _ x hc ht hx ha
  · cases h

lemma move_of_place {c : Call} {s : Nat} {outcome : Outcome} (hc : p.calls[i]? = some c)
    (ht : c.task = .placing s outcome) (h : p.place? i c s outcome = some q) :
    Move p (.task i) q := by
  obtain ⟨x, hx, h⟩ := Option.bind_eq_some_iff.1 h
  split at h <;> rename_i hf
  · cases h
    exact .putBack i c s x outcome hc ht hx hf.1 hf.2
  · obtain ⟨r, hr, h⟩ := Option.bind_eq_some_iff.1 h
    obtain ⟨x', y, hx', hy, rfl⟩ := sessionStep_eq_some hr
    cases h
    rw [hx] at hx'
    cases hx'
    obtain ⟨ha, rfl⟩ := disconnect_eq_some hy
    exact .reject i c s x outcome hc ht hx hf ha

lemma move_of_taskStep (h : p.taskStep? i = some q) : Move p (.task i) q := by
  obtain ⟨c, hc, h⟩ := Option.bind_eq_some_iff.1 h
  split at h <;> rename_i ht
  · obtain ⟨outcome, ho, h⟩ := Option.bind_eq_some_iff.1 h
    obtain ⟨r, hr, h⟩ := Option.bind_eq_some_iff.1 h
    obtain ⟨x, hx, hf⟩ := outcome_eq_some ho
    obtain ⟨x', y, hx', hy, rfl⟩ := sessionStep_eq_some hr
    cases h
    rw [hx] at hx'
    cases hx'
    cases collect_eq_some hy
    exact .settle i c _ x outcome hc ht hx hf
  · split at h <;> rename_i he
    · obtain ⟨r, hr, h⟩ := Option.bind_eq_some_iff.1 h
      obtain ⟨x, y, hx, hy, rfl⟩ := sessionStep_eq_some hr
      cases h
      cases collect_eq_some hy
      exact .lapse i c _ x hc ht hx ((hasEnded_iff hx).1 he)
    · cases h
  · cases h
    exact .uncount i c _ _ hc ht
  · exact move_of_place hc ht h
  · cases h
    exact .repay i c _ hc ht
  · split at h <;> rename_i he
    · obtain ⟨r, hr, h⟩ := Option.bind_eq_some_iff.1 h
      obtain ⟨x, y, hx, hy, rfl⟩ := sessionStep_eq_some hr
      cases h
      cases collect_eq_some hy
      exact .drop i c _ x _ hc ht hx ((hasEnded_iff hx).1 he)
    · cases h
  · cases h
    exact .sealUp i c _ hc ht
  · cases h
  · cases h
  · cases h

lemma move_of_drain (h : p.drain? i = some q) : Move p (.drain i) q := by
  obtain ⟨c, hc, h⟩ := Option.bind_eq_some_iff.1 h
  split at h <;> rename_i ht
  · split at h <;> rename_i hd
    · cases h
    · obtain ⟨r, hr, h⟩ := Option.bind_eq_some_iff.1 h
      obtain ⟨r', hr', h⟩ := Option.bind_eq_some_iff.1 h
      obtain ⟨x, y, hx, hy, rfl⟩ := sessionStep_eq_some hr
      obtain ⟨x', z, hx', hz, rfl⟩ := sessionStep_eq_some hr'
      cases h
      unfold Session.step? at hy
      dsimp only at hy
      split at hy <;> rename_i ha <;> cases hy
      have hs : _ < p.sessions.size := (Array.getElem?_eq_some_iff.1 hx).1
      rw [setSession, Array.getElem?_setIfInBounds_self_of_lt hs] at hx'
      cases hx'
      obtain ⟨-, rfl⟩ := disconnect_eq_some hz
      have hle : c.drainDeadline ≤ p.now := Nat.le_of_not_lt fun hlt => hd (.inl hlt)
      have hk : x.step? p.config p.now .claim = none := by
        rw [← Option.not_isSome_iff_eq_none]
        intro hsome
        obtain ⟨w, hw⟩ := Option.isSome_iff_exists.1 hsome
        exact hd (.inr (.inr (by rw [sessionStep_of_step hx hw]; rfl)))
      have hmove := Move.drain i c _ x hc ht hle hx ha hk
      simpa [setSession, setCall] using hmove
  · cases h

lemma move_of_closerStep {k : Nat} (h : p.closerStep? k = some q) : Move p (.closer k) q := by
  obtain ⟨phase, hk, h⟩ := Option.bind_eq_some_iff.1 h
  dsimp only at h
  split at h
  · cases h
    exact .shut k hk
  · cases h
    exact .lock k _ hk
  · cases h
    exact .allClosed k hk
  · obtain ⟨r, hr, h⟩ := Option.bind_eq_some_iff.1 h
    obtain ⟨x, y, hx, hy, rfl⟩ := sessionStep_eq_some hr
    cases h
    obtain ⟨ha, rfl⟩ := disconnect_eq_some hy
    exact .endNext k _ _ x hk hx ha
  · split at h <;> rename_i he
    · obtain ⟨r, hr, h⟩ := Option.bind_eq_some_iff.1 h
      obtain ⟨x, y, hx, hy, rfl⟩ := sessionStep_eq_some hr
      cases h
      cases collect_eq_some hy
      exact .endOne k _ _ x hk hx ((hasEnded_iff hx).1 he)
    · cases h
  · cases h

/-- An event that happens is a move. -/
theorem move_of_act {e : Event} (h : p.act? e = some q) : Move p e q := by
  cases e with
  | connected =>
    simp only [act?] at h
    split at h <;> rename_i hr <;> cases h
    rw [not_or] at hr
    refine .connected (by simpa using hr.1) ?_
    intro x hx
    have := hr.2
    rw [Bool.not_eq_true, Array.any_eq_false'] at this
    simpa using this x hx
  | arrive script timeout =>
    simp only [act?] at h
    split at h <;> rename_i hr <;> cases h
    exact .arrive script timeout hr.1
  | call i => exact move_of_callStep h
  | expire i => exact move_of_expire h
  | abandon i => exact move_of_abandon h
  | begin i id => exact move_of_begin h
  | task i => exact move_of_taskStep h
  | drain i => exact move_of_drain h
  | close =>
    simp only [act?] at h
    split at h <;> rename_i hr <;> cases h
    exact .close hr
  | closer k => exact move_of_closerStep h
  | session s e =>
    simp only [act?] at h
    split at h <;> rename_i he
    · obtain ⟨x, y, hx, hy, rfl⟩ := sessionStep_eq_some h
      exact .session s e x y hx (Session.proceeds_of_step he hy)
    · cases h
  | advance later => cases h

end Pool

end GraphClient
