import GraphClient.Proofs.DrainDeadline
import GraphClient.Proofs.Places
import GraphClient.Proofs.PoolErrors
import Mathlib.Logic.Relation

/-!
# Exhaustion

When a caller is told that the pool is exhausted. It is told so only once the pool has been shut or
its last session has been discarded, and from then on everyone who has no session is told so at
once, before the clock moves on.
-/

namespace GraphClient

namespace Semaphore

variable (s : Semaphore) (caller : Nat)

@[simp] lemma closed_ask : (s.ask caller).closed = s.closed := by
  unfold ask
  split <;> rfl

@[simp] lemma closed_release : s.release.closed = s.closed := by
  unfold release
  split <;> rfl

@[simp] lemma closed_consume : (s.consume caller).closed = s.closed := rfl

@[simp] lemma closed_leave : (s.leave caller).closed = s.closed := by
  unfold leave
  split
  · rw [closed_release, closed_consume]
  · rfl

end Semaphore

def Outcome.isExhausted : Outcome → Bool
  | .error e => e.kind = .poolExhausted
  | .ok _ => false

namespace CallPhase

/-- The caller was told that the pool is exhausted. -/
def isExhausted : CallPhase → Bool
  | returned outcome => Outcome.isExhausted outcome
  | _ => false

/-- The caller still wants a session and has none. -/
def isAtCheckout : CallPhase → Bool
  | arrived | admitted | waiting | permitted => true
  | holding _ | running | returned _ | abandoned => false

/-- The caller gets no session: it is told that the pool is exhausted, or it will be, or it has gone
away. -/
def GoesWithout (phase : CallPhase) : Prop :=
  phase.isAtCheckout = true ∨ phase.isExhausted = true ∨ phase = .abandoned

lemma not_goesWithout_holding (s : Nat) : ¬(holding s).GoesWithout := by
  rintro (h | h | h) <;> cases h

lemma not_goesWithout_running : ¬running.GoesWithout := by
  rintro (h | h | h) <;> cases h

end CallPhase

namespace TaskPhase

/-- The outcome of the request of a task. -/
def outcome? : TaskPhase → Option Outcome
  | releasing _ outcome | placing _ outcome | discarding _ outcome | permitting outcome
  | sealing outcome | finished outcome => some outcome
  | none | spawned _ | submitting _ | expiring _ => Option.none

/-- The last live session is gone, and the semaphore is about to be closed. -/
def isSealing : TaskPhase → Bool
  | sealing _ => true
  | _ => false

end TaskPhase

namespace CloserPhase

/-- The closer has shut the pool and closed its semaphore. -/
def hasLocked : CloserPhase → Bool
  | clearing _ | disconnecting _ _ | done => true
  | arrived | drained _ => false

end CloserPhase

namespace Session

/-- No request of the session ends by saying that the pool is exhausted. -/
def IsFrank (x : Session) : Prop :=
  ∀ e, x.activity.error? = some e → e.kind ≠ .poolExhausted

variable {x : Session}

lemma IsSincere.isFrank (h : x.IsSincere) : x.IsFrank := by
  intro e he hk
  have hno := h e he
  rw [hk] at hno
  cases hno

lemma isExhausted_of_finished {outcome : Outcome} (hx : x.IsFrank)
    (h : x.activity = .finished outcome) : Outcome.isExhausted outcome = false := by
  cases outcome with
  | ok values => rfl
  | error e =>
    have he := hx e (by rw [h]; rfl)
    simpa [Outcome.isExhausted] using he

end Session

namespace Pool

variable {config : ClientConfig} {start : Instant} {log : List Note} {p q : Pool} {e : Event}

/-- The last session of the pool was discarded. -/
def IsSpent (p : Pool) : Prop := p.live = 0 ∧ 0 < p.discarded

/-- The pool was shut, or the last of its sessions was discarded. -/
def IsOver (p : Pool) : Prop := p.isOpen = false ∨ p.IsSpent

lemma isSpent_of_move (h : Move p e q) (hs : p.IsSpent) : q.IsSpent := by
  obtain ⟨hl, hd⟩ := hs
  have hlive : p.live - 1 = 0 := by omega
  cases h with
  | drop => exact ⟨hlive, Nat.succ_pos p.discarded⟩
  | endOne => exact ⟨hlive, hd⟩
  | _ => exact ⟨hl, hd⟩

lemma isOver_of_move (h : Move p e q) (ho : p.IsOver) : q.IsOver := by
  rcases ho with ho | hs
  · left
    cases h with
    | shut => rfl
    | _ => exact ho
  · exact .inr (isSpent_of_move h hs)

lemma closed_of_move (h : Move p e q) (hs : p.semaphore.closed = true) :
    q.semaphore.closed = true := by
  cases h with
  | ask i => exact (Semaphore.closed_ask _ i).trans hs
  | giveUp i | expireWaiting i | abandonWaiting i => exact (Semaphore.closed_leave _ i).trans hs
  | permit i => exact (Semaphore.closed_consume _ i).trans hs
  | repay => exact (Semaphore.closed_release _).trans hs
  | sealUp | lock => rfl
  | _ => exact hs

def TaskFrank (c : Call) : Prop :=
  ∀ outcome, c.task.outcome? = some outcome → Outcome.isExhausted outcome = false

lemma tasks_frank_of_move (h : Move p e q)
    (hs : ∀ (s : Nat) (x : Session), p.sessions[s]? = some x → x.IsFrank)
    (hf : ∀ (i : Nat) (c : Call), p.calls[i]? = some c → TaskFrank c) :
    ∀ (i : Nat) (c : Call), q.calls[i]? = some c → TaskFrank c := by
  cases h with
  | arrive => exact forall_push hf fun _ ho => by cases ho
  | enter i c hc | turnAway i c hc | refuse i c hc | ask i c hc | giveUp i c hc | permit i c hc
  | miss i c hc | take i c _ _ hc | deliver i c _ hc | expireWaiting i c hc
  | expireRunning i c hc | abandonWaiting i c hc | abandonEarly i c hc | abandonRunning i c hc =>
    exact forall_setIfInBounds hf (hf i c hc)
  | lend | begin | drain => exact forall_setIfInBounds hf fun _ ho => by cases ho
  | settle i c s x outcome _ _ hx ha =>
    apply forall_setIfInBounds hf
    intro outcome' ho
    cases ho
    exact Session.isExhausted_of_finished (hs s x hx) ha
  | lapse =>
    apply forall_setIfInBounds hf
    intro outcome ho
    cases ho
    rfl
  | uncount i c _ outcome hc ht | putBack i c _ _ outcome hc ht | reject i c _ _ outcome hc ht
  | repay i c outcome hc ht | sealUp i c outcome hc ht =>
    apply forall_setIfInBounds hf
    intro outcome' ho
    cases ho
    exact hf i c hc outcome (by rw [ht]; rfl)
  | drop i c _ _ outcome hc ht =>
    apply forall_setIfInBounds hf
    intro outcome' ho
    have hsame : outcome' = outcome := by
      dsimp only at ho
      split at ho <;> cases ho <;> rfl
    rw [hsame]
    exact hf i c hc outcome (by rw [ht]; rfl)
  | connected | close | shut | lock | allClosed | endNext | endOne | session => exact hf

/-- Nothing that serves a request says that the pool is exhausted. -/
structure Frank (p : Pool) : Prop where
  sessions : ∀ (s : Nat) (x : Session), p.sessions[s]? = some x → x.IsFrank
  tasks : ∀ (i : Nat) (c : Call), p.calls[i]? = some c → TaskFrank c

theorem frank_of_history (h : History config start log p) : Frank p := by
  induction h with
  | opening =>
    refine ⟨fun s x hx => (sincere_of_history .opening s x hx).isFrank, ?_⟩
    intro i c hc
    simp [Pool.opening] at hc
  | act h he ih =>
    exact ⟨fun s x hx => (sincere_of_history (.act h he) s x hx).isFrank,
      tasks_frank_of_move (move_of_act he) ih.sessions ih.tasks⟩
  | wait _ _ ih => exact ⟨ih.sessions, ih.tasks⟩

/-- How far the closers have shut a pool. -/
structure Shutting (p : Pool) : Prop where
  idle : p.isOpen = false → p.idle = []
  arrived : p.isOpen = true ↔ ∀ f ∈ p.closers, f = .arrived
  locked : ∀ f ∈ p.closers, f.hasLocked = true → p.semaphore.closed = true

lemma shutting_of_closers (hp : Shutting p) (ho : q.isOpen = p.isOpen) (hi : q.idle = p.idle)
    (hk : q.closers = p.closers) (hs : p.semaphore.closed = true → q.semaphore.closed = true) :
    Shutting q := by
  refine ⟨?_, ?_, ?_⟩
  · rw [ho, hi]
    exact hp.idle
  · rw [ho, hk]
    exact hp.arrived
  · rw [hk]
    exact fun f hf hl => hs (hp.locked f hf hl)

lemma shutting_of_set {k : Nat} {f f' : CloserPhase} (hp : Shutting p)
    (hk : p.closers[k]? = some f) (ho : q.isOpen = p.isOpen) (hi : q.idle = p.idle)
    (hq : q.closers = p.closers.set k f') (hf : f ≠ .arrived) (hf' : f' ≠ .arrived)
    (hs : p.semaphore.closed = true → q.semaphore.closed = true)
    (hl : f'.hasLocked = true → q.semaphore.closed = true) : Shutting q := by
  have hlt : k < p.closers.length := (List.getElem?_eq_some_iff.1 hk).1
  refine ⟨?_, ?_, ?_⟩
  · rw [ho, hi]
    exact hp.idle
  · rw [ho, hp.arrived, hq]
    constructor
    · intro hall
      exact absurd (hall f (List.mem_of_getElem? hk)) hf
    · intro hall
      exact absurd (hall f' (List.mem_set hlt f')) hf'
  · intro g hg hgl
    rw [hq] at hg
    rcases List.mem_or_eq_of_mem_set hg with hg | rfl
    · exact hs (hp.locked g hg hgl)
    · exact hl hgl

lemma shutting_of_move (hp : Shutting p) (h : Move p e q) : Shutting q := by
  have hclosed := closed_of_move h
  cases h with
  | take i c s rest hc hph hi =>
    have hopen : p.isOpen = true := by
      by_contra hno
      rw [hp.idle (by simpa using hno)] at hi
      cases hi
    refine ⟨?_, hp.arrived, hp.locked⟩
    intro hno
    exact absurd (hopen.symm.trans hno) nofun
  | putBack i c s x outcome hc ht hx hf ho =>
    refine ⟨?_, hp.arrived, hp.locked⟩
    intro hno
    exact absurd (ho.symm.trans hno) nofun
  | close =>
    refine ⟨hp.idle, ?_, ?_⟩
    · change p.isOpen = true ↔ _
      rw [hp.arrived, List.forall_mem_append]
      simp
    · intro f hf hl
      rcases List.mem_append.1 hf with hf | hf
      · exact hp.locked f hf hl
      · rw [List.mem_singleton.1 hf] at hl
        cases hl
  | shut k hk =>
    have hlt : k < p.closers.length := (List.getElem?_eq_some_iff.1 hk).1
    refine ⟨fun _ => rfl, ?_, ?_⟩
    · refine ⟨nofun, fun hall => ?_⟩
      cases hall _ (List.mem_set hlt (.drained p.idle))
    · intro f hf hl
      rcases List.mem_or_eq_of_mem_set hf with hf | rfl
      · exact hp.locked f hf hl
      · cases hl
  | lock k sessions hk =>
    exact shutting_of_set hp hk rfl rfl rfl nofun nofun hclosed fun _ => rfl
  | allClosed k hk | endNext k _ _ _ hk | endOne k _ _ _ hk =>
    have hlocked := hp.locked _ (List.mem_of_getElem? hk) rfl
    exact shutting_of_set hp hk rfl rfl rfl nofun nofun hclosed fun _ => hlocked
  | _ => exact shutting_of_closers hp rfl rfl rfl hclosed

theorem shutting_of_history (h : History config start log p) : Shutting p := by
  induction h with
  | opening => exact ⟨nofun, by simp [Pool.opening], nofun⟩
  | act _ he ih => exact shutting_of_move ih (move_of_act he)
  | wait _ _ ih => exact ⟨ih.idle, ih.arrived, ih.locked⟩

/-- A task that is about to close the semaphore does so or stays. -/
lemma sealing_of_move (hp : Custody p) (h : Move p e q)
    (hs : ∃ (i : Nat) (c : Call), p.calls[i]? = some c ∧ c.task.isSealing = true) :
    q.semaphore.closed = true ∨
      ∃ (i : Nat) (c : Call), q.calls[i]? = some c ∧ c.task.isSealing = true := by
  obtain ⟨j, b, hb, hseal⟩ := hs
  -- the moves of other tasks leave it as it is, and its own next move closes the semaphore
  have hset {i : Nat} {c c' : Call} (hc : p.calls[i]? = some c)
      (hq : q.calls = p.calls.setIfInBounds i c')
      (ht : c.task.isSealing = true → c'.task.isSealing = true) :
      ∃ (i : Nat) (c : Call), q.calls[i]? = some c ∧ c.task.isSealing = true := by
    rw [hq]
    by_cases hij : j = i
    · subst hij
      rw [hc] at hb
      cases hb
      have hlt : j < p.calls.size := (Array.getElem?_eq_some_iff.1 hc).1
      exact ⟨j, c', Array.getElem?_setIfInBounds_self_of_lt hlt, ht hseal⟩
    · exact ⟨j, b, by rw [Array.getElem?_setIfInBounds_ne (Ne.symm hij), hb], hseal⟩
  cases h with
  | arrive script timeout =>
    have hlt : j < p.calls.size := (Array.getElem?_eq_some_iff.1 hb).1
    refine .inr ⟨j, b, ?_, hseal⟩
    rw [arrive, Array.getElem?_push, if_neg (by omega), hb]
  | enter i c hc | turnAway i c hc | refuse i c hc | ask i c hc | giveUp i c hc | permit i c hc
  | miss i c hc | take i c _ _ hc | deliver i c _ hc | expireWaiting i c hc
  | expireRunning i c hc | abandonWaiting i c hc | abandonEarly i c hc | abandonRunning i c hc =>
    exact .inr (hset hc rfl id)
  | lend i c s hc hph =>
    refine .inr (hset hc rfl fun hsealing => ?_)
    rw [hp.early i c hc (by rw [hph]; rfl)] at hsealing
    cases hsealing
  | begin i _ c _ _ hc ht | settle i c _ _ _ hc ht | lapse i c _ _ hc ht | uncount i c _ _ hc ht
  | putBack i c _ _ _ hc ht | reject i c _ _ _ hc ht | repay i c _ hc ht
  | drop i c _ _ _ hc ht | drain i c _ _ hc ht =>
    refine .inr (hset hc rfl fun hsealing => ?_)
    rw [ht] at hsealing
    cases hsealing
  | sealUp => exact .inl rfl
  | connected | close | shut | lock | allClosed | endNext | endOne | session =>
    exact .inr ⟨j, b, hb, hseal⟩

/-- A caller with a permit finds no session only after the pool was shut. -/
lemma not_open_of_miss (hb : Books p) {i : Nat} {c : Call} (hc : p.calls[i]? = some c)
    (hph : c.phase = .permitted) (hi : p.idle = []) : p.isOpen = false := by
  by_contra hno
  have hpermits := hb.permits (by simpa using hno)
  have hpos : 0 < p.tally Call.isPermitted := tally_pos hc (by rw [Call.isPermitted, hph])
  rw [hi, List.length_nil] at hpermits
  omega

/-- How the end of a pool shows in its tasks, its semaphore and its calls. -/
structure Ending (p : Pool) : Prop where
  sealing : ∀ (i : Nat) (c : Call), p.calls[i]? = some c → c.task.isSealing = true → p.IsSpent
  closed : p.semaphore.closed = true → p.IsOver
  told : ∀ (i : Nat) (c : Call), p.calls[i]? = some c → c.phase.isExhausted = true → p.IsOver
  spent : p.IsSpent → p.semaphore.closed = true ∨
    ∃ (i : Nat) (c : Call), p.calls[i]? = some c ∧ c.task.isSealing = true

lemma isSpent_of_sealing (hn : Ending p) (h : Move p e q) :
    ∀ (i : Nat) (c : Call), q.calls[i]? = some c → c.task.isSealing = true → q.IsSpent := by
  have hold : ∀ (i : Nat) (c : Call), p.calls[i]? = some c → c.task.isSealing = true →
      q.IsSpent := fun i c hc ht => isSpent_of_move h (hn.sealing i c hc ht)
  cases h with
  | arrive => exact forall_push hold fun ht => by cases ht
  | enter i c hc | turnAway i c hc | refuse i c hc | ask i c hc | giveUp i c hc | permit i c hc
  | miss i c hc | take i c _ _ hc | deliver i c _ hc | expireWaiting i c hc
  | expireRunning i c hc | abandonWaiting i c hc | abandonEarly i c hc | abandonRunning i c hc =>
    exact forall_setIfInBounds hold (hold i c hc)
  | lend | begin | settle | lapse | uncount | putBack | reject | repay | sealUp | drain =>
    exact forall_setIfInBounds hold fun ht => by cases ht
  | drop i c s x outcome =>
    apply forall_setIfInBounds hold
    intro ht
    dsimp only at ht
    split at ht <;> rename_i hlive
    · exact ⟨hlive, Nat.succ_pos p.discarded⟩
    · cases ht
  | connected | close | shut | lock | allClosed | endNext | endOne | session => exact hold

lemma isOver_of_closed (hk : Shutting p) (hn : Ending p) (h : Move p e q)
    (hs : q.semaphore.closed = true) : q.IsOver := by
  have hold : p.semaphore.closed = true → q.IsOver := fun hs => isOver_of_move h (hn.closed hs)
  cases h with
  | ask i => exact hold ((Semaphore.closed_ask _ i).symm.trans hs)
  | giveUp i | expireWaiting i | abandonWaiting i =>
    exact hold ((Semaphore.closed_leave _ i).symm.trans hs)
  | permit i => exact hold ((Semaphore.closed_consume _ i).symm.trans hs)
  | repay => exact hold ((Semaphore.closed_release _).symm.trans hs)
  | sealUp i c outcome hc ht => exact .inr (hn.sealing i c hc (by rw [ht]; rfl))
  | lock k sessions hlock =>
    left
    by_contra hno
    cases hk.arrived.1 (by simpa using hno) _ (List.mem_of_getElem? hlock)
  | _ => exact hold hs

lemma isOver_of_told (hb : Books p) (hf : Frank p) (hn : Ending p) (h : Move p e q) :
    ∀ (i : Nat) (c : Call), q.calls[i]? = some c → c.phase.isExhausted = true → q.IsOver := by
  have hold : ∀ (i : Nat) (c : Call), p.calls[i]? = some c → c.phase.isExhausted = true →
      q.IsOver := fun i c hc ht => isOver_of_move h (hn.told i c hc ht)
  cases h with
  | arrive => exact forall_push hold fun ht => by cases ht
  | turnAway i c hc hph ho => exact forall_setIfInBounds hold fun _ => .inl ho
  | refuse i c hc hph hs | giveUp i c hc hph hs =>
    exact forall_setIfInBounds hold fun _ => hn.closed hs
  | miss i c hc hph hi =>
    have hshut := not_open_of_miss hb hc hph hi
    exact forall_setIfInBounds hold fun _ => .inl hshut
  | deliver i c outcome hc hph ht =>
    apply forall_setIfInBounds hold
    intro htold
    have hno := hf.tasks i c hc outcome (by rw [ht]; rfl)
    cases htold.symm.trans hno
  | enter | ask | permit | take | lend | expireWaiting | expireRunning | abandonWaiting
  | abandonEarly | abandonRunning => exact forall_setIfInBounds hold fun ht => by cases ht
  | begin i _ c _ _ hc | settle i c _ _ _ hc | lapse i c _ _ hc | uncount i c _ _ hc
  | putBack i c _ _ _ hc | reject i c _ _ _ hc | repay i c _ hc | drop i c _ _ _ hc
  | sealUp i c _ hc | drain i c _ _ hc => exact forall_setIfInBounds hold (hold i c hc)
  | connected | close | shut | lock | allClosed | endNext | endOne | session => exact hold

lemma closed_of_isSpent (hp : Custody p) (hk : Shutting p) (hn : Ending p) (h : Move p e q)
    (hs : q.IsSpent) : q.semaphore.closed = true ∨
      ∃ (i : Nat) (c : Call), q.calls[i]? = some c ∧ c.task.isSealing = true := by
  have hold (hs : p.IsSpent) : q.semaphore.closed = true ∨
      ∃ (i : Nat) (c : Call), q.calls[i]? = some c ∧ c.task.isSealing = true := by
    rcases hn.spent hs with hc | hseal
    · exact .inl (closed_of_move h hc)
    · exact sealing_of_move hp h hseal
  cases h with
  | drop i c s x outcome hc ht =>
    have hlive : p.live - 1 = 0 := hs.1
    have hlt : i < p.calls.size := (Array.getElem?_eq_some_iff.1 hc).1
    refine .inr ⟨i, _, Array.getElem?_setIfInBounds_self_of_lt hlt, ?_⟩
    rw [if_pos hlive]
    rfl
  -- a closer ends sessions only after it has closed the semaphore
  | endOne k s rest x hkf => exact .inl (hk.locked _ (List.mem_of_getElem? hkf) rfl)
  | _ => exact hold hs

theorem ending_of_history (h : History config start log p) : Ending p := by
  induction h with
  | opening =>
    refine ⟨?_, nofun, ?_, nofun⟩
    · intro i c hc
      simp [Pool.opening] at hc
    · intro i c hc
      simp [Pool.opening] at hc
  | act h he ih =>
    have hp := custody_of_history h
    have hk := shutting_of_history h
    have hmove := move_of_act he
    exact ⟨isSpent_of_sealing ih hmove, isOver_of_closed hk ih hmove,
      isOver_of_told (books_of_history h) (frank_of_history h) ih hmove,
      closed_of_isSpent hp hk ih hmove⟩
  | wait _ _ ih => exact ⟨ih.sealing, ih.closed, ih.told, ih.spent⟩

lemma isOpen_of_move (h : Move p e q) (ho : q.isOpen = true) : p.isOpen = true := by
  cases h with
  | shut => cases ho
  | _ => exact ho

/-- While a pool is open, no session is closed with it. -/
lemma not_closed_of_isOpen (h : History config start log p) (ho : p.isOpen = true) (s : Nat) :
    .closed s ∉ log := by
  induction h with
  | opening => nofun
  | @act log p q e h he ih =>
    have hopen := isOpen_of_move (move_of_act he) ho
    intro hs
    rcases List.mem_append.1 hs with hs | hs
    · exact ih hopen hs
    · rw [Option.mem_toList] at hs
      cases noted_of_note hs with
      | closed k s rest hk =>
        cases (shutting_of_history h).arrived.1 hopen _ (List.mem_of_getElem? hk)
      | session t x event note hx hn => cases hn
  | wait _ _ ih => exact ih ho

lemma countP_isClosed_of_isOpen (h : History config start log p) (ho : p.isOpen = true) :
    log.countP Note.isClosed = 0 := by
  rw [List.countP_eq_zero]
  intro note hn hc
  cases note with
  | closed s => exact not_closed_of_isOpen h ho s hn
  | _ => cases hc

/-- An open pool that is over has discarded all its sessions. -/
lemma all_discarded (h : History config start log p) (ho : p.isOpen = true) (hs : p.IsOver) :
    p.discarded = config.poolSize ∧ p.live = 0 ∧ p.idle = [] ∧ p.inUse = 0 := by
  have hlive : p.live = 0 := by
    rcases hs with hs | hs
    · exact absurd (ho.symm.trans hs) nofun
    · exact hs.1
  have hsum := live_eq (custody_of_history h) (books_of_history h)
  have hacc := accounts_of_history h
  have htotal := hacc.live
  rw [← hacc.discarded, countP_isClosed_of_isOpen h ho, hlive, config_of_history h] at htotal
  have hidle : p.idle.length = 0 := by omega
  exact ⟨by omega, hlive, List.length_eq_zero_iff.1 hidle, by omega⟩

lemma idle_eq_nil_of_closed (h : History config start log p) (hs : p.semaphore.closed = true) :
    p.idle = [] := by
  cases ho : p.isOpen with
  | false => exact (shutting_of_history h).idle ho
  | true => exact (all_discarded h ho ((ending_of_history h).closed hs)).2.2.1

/-- Once the semaphore is closed, whoever has no session goes without one. -/
lemma goesWithout_of_move (h : History config start log p) (hs : p.semaphore.closed = true)
    (hm : Move p e q) :
    ∀ (i : Nat) (c : Call), q.calls[i]? = some c →
      (∀ b, p.calls[i]? = some b → b.phase.GoesWithout) → c.phase.GoesWithout := by
  have hidle := idle_eq_nil_of_closed h hs
  have hset {i : Nat} {c c' : Call} (hc : p.calls[i]? = some c)
      (hq : q.calls = p.calls.setIfInBounds i c')
      (hnew : c.phase.GoesWithout → c'.phase.GoesWithout) :
      ∀ (j : Nat) (b : Call), q.calls[j]? = some b →
        (∀ a, p.calls[j]? = some a → a.phase.GoesWithout) → b.phase.GoesWithout := by
    intro j b hb hall
    rcases call_of_set hq hb with ⟨rfl, rfl⟩ | ⟨-, hb⟩
    · exact hnew (hall c hc)
    · exact hall b hb
  cases hm with
  | arrive => exact forall_push (fun _ c hc hall => hall c hc) fun _ => .inl rfl
  | enter i c hc => exact hset hc rfl fun _ => .inl rfl
  | turnAway i c hc | refuse i c hc | giveUp i c hc | miss i c hc =>
    exact hset hc rfl fun _ => .inr (.inl rfl)
  | ask i c hc hph hno | permit i c hc hph hno => cases hno.symm.trans hs
  | take i c s rest hc hph hi =>
    rw [hidle] at hi
    cases hi
  | lend i c s hc hph =>
    exact hset hc rfl fun hw => absurd (hph ▸ hw) (CallPhase.not_goesWithout_holding s)
  | deliver i c outcome hc hph | expireRunning i c hc hph =>
    exact hset hc rfl fun hw => absurd (hph ▸ hw) CallPhase.not_goesWithout_running
  | expireWaiting i c hc hph hd hn =>
    simp [callStep?, hc, hph, hs] at hn
  | abandonWaiting i c hc | abandonEarly i c hc | abandonRunning i c hc =>
    exact hset hc rfl fun _ => .inr (.inr rfl)
  | begin i _ c _ _ hc | settle i c _ _ _ hc | lapse i c _ _ hc | uncount i c _ _ hc
  | putBack i c _ _ _ hc | reject i c _ _ _ hc | repay i c _ hc | drop i c _ _ _ hc
  | sealUp i c _ hc | drain i c _ _ hc => exact hset hc rfl id
  | connected | close | shut | lock | allClosed | endNext | endOne | session =>
    intro i c hc hall
    exact hall c hc

/-- A pool later on: events have happened and time has passed, in any order. -/
def Onward : Pool → Pool → Prop :=
  Relation.ReflTransGen fun p q =>
    (∃ e, p.act? e = some q) ∨ ∃ later, p.now ≤ later ∧ q = { p with now := later }

lemma onward_of_step (h : p.step? e = some q) : Onward p q := by
  have hact (he : p.act? e = some q) : Onward p q := .single (.inl ⟨e, he⟩)
  cases e with
  | advance later =>
    simp only [step?] at h
    split at h
    · rename_i hl
      cases h
      exact .single (.inr ⟨later, Nat.le_of_lt hl.1, rfl⟩)
    · cases h
  | _ => exact hact h

lemma onward_of_run {events : List Event} (h : p.run? events = some q) : Onward p q := by
  induction events generalizing p with
  | nil =>
    cases h
    exact .refl
  | cons e events ih =>
    obtain ⟨r, hr, h⟩ := Option.bind_eq_some_iff.1 h
    exact (onward_of_step hr).trans (ih h)

lemma goesWithout_of_onward (h : History config start log p) (hs : p.semaphore.closed = true)
    (ho : Onward p q) :
    (∃ log', History config start log' q) ∧ q.semaphore.closed = true ∧
      ∀ (i : Nat) (c : Call), q.calls[i]? = some c →
        (∀ b, p.calls[i]? = some b → b.phase.GoesWithout) → c.phase.GoesWithout := by
  induction ho with
  | refl => exact ⟨⟨log, h⟩, hs, fun i c hc hall => hall c hc⟩
  | tail _ hstep ih =>
    obtain ⟨⟨log', hr⟩, hclosed, hcalls⟩ := ih
    rcases hstep with ⟨e, he⟩ | ⟨later, hl, rfl⟩
    · have hmove := move_of_act he
      refine ⟨⟨_, .act hr he⟩, closed_of_move hmove hclosed, ?_⟩
      intro i c hc hall
      exact goesWithout_of_move hr hclosed hmove i c hc fun b hb => hcalls i b hb hall
    · exact ⟨⟨_, .wait hr hl⟩, hclosed, hcalls⟩

/-- A call has been told that the pool is exhausted. -/
def Refused (p : Pool) (i : Nat) : Prop := ∃ c, p.calls[i]? = some c ∧ c.phase.isExhausted = true

lemma refused_of_return {i : Nat} {c : Call} {outcome : Outcome} (hc : p.calls[i]? = some c)
    (hq : q.calls = p.calls.setIfInBounds i { c with phase := .returned outcome })
    (ho : Outcome.isExhausted outcome = true) : Refused q i := by
  have hlt : i < p.calls.size := (Array.getElem?_eq_some_iff.1 hc).1
  refine ⟨{ c with phase := .returned outcome }, ?_, ho⟩
  rw [hq, Array.getElem?_setIfInBounds_self_of_lt hlt]

/-- Once the semaphore is closed, the next step of a caller that has looked at the pool tells it
so. -/
lemma refused_next {i : Nat} {c : Call} (hs : p.semaphore.closed = true) (hi : p.idle = [])
    (hc : p.calls[i]? = some c) (hat : c.phase.isAtCheckout = true) (ha : c.phase ≠ .arrived) :
    ∃ q, p.act? (.call i) = some q ∧ Refused q i := by
  cases hph : c.phase with
  | arrived => exact absurd hph ha
  | admitted =>
    refine ⟨p.setCall i { c with phase := .returned (.error p.exhausted) }, ?_, ?_⟩
    · simp [act?, callStep?, hc, hph, hs]
    · exact refused_of_return hc rfl rfl
  | waiting =>
    refine ⟨{ p with semaphore := p.semaphore.leave i }.setCall i
      { c with phase := .returned (.error p.exhausted) }, ?_, ?_⟩
    · simp [act?, callStep?, hc, hph, hs]
    · exact refused_of_return hc rfl rfl
  | permitted =>
    refine ⟨p.setCall i { c with phase := .returned (.error p.exhausted) }, ?_, ?_⟩
    · simp [act?, callStep?, hc, hph, takeIdle, hi]
    · exact refused_of_return hc rfl rfl
  | holding | running | returned | abandoned =>
    rw [hph] at hat
    cases hat

/-- Once the semaphore is closed, a caller without a session is told so in at most two steps of its
own. -/
lemma refused_soon {i : Nat} {c : Call} (hs : p.semaphore.closed = true) (hi : p.idle = [])
    (hc : p.calls[i]? = some c) (hat : c.phase.isAtCheckout = true) :
    ∃ q, (p.run? [.call i] = some q ∨ p.run? [.call i, .call i] = some q) ∧ Refused q i := by
  by_cases ha : c.phase = .arrived
  · cases ho : p.isOpen with
    | false =>
      let e := ClientError.poolExhausted "Pool is closed"
      refine ⟨p.setCall i { c with phase := .returned (.error e) }, .inl ?_, ?_⟩
      · simp [run?, step?, act?, callStep?, hc, ha, ho, e]
      · exact refused_of_return hc rfl rfl
    | true =>
      -- it still looks at the semaphore, which refuses it
      have hlt : i < p.calls.size := (Array.getElem?_eq_some_iff.1 hc).1
      have henter : p.act? (.call i) = some (p.setCall i { c with phase := .admitted }) := by
        simp [act?, callStep?, hc, ha, ho]
      obtain ⟨q, hq, hrefused⟩ := refused_next
        (p := p.setCall i { c with phase := .admitted }) hs hi
        (Array.getElem?_setIfInBounds_self_of_lt hlt) rfl (by simp)
      refine ⟨q, .inr ?_, hrefused⟩
      simp [run?, step?, henter, hq]
  · obtain ⟨q, hq, hrefused⟩ := refused_next hs hi hc hat ha
    exact ⟨q, .inl (by simp [run?, step?, hq]), hrefused⟩

/-- A caller that is about to be told so neither waits nor runs out of time. -/
lemma not_waiting_of_closed {i : Nat} {c : Call} (hs : p.semaphore.closed = true)
    (hi : p.idle = []) (hc : p.calls[i]? = some c) (hat : c.phase.isAtCheckout = true) :
    p.isQuiet = false ∧ p.act? (.expire i) = none := by
  have hstep : (p.act? (.call i)).isSome = true := by
    obtain ⟨q, hq | hq, -⟩ := refused_soon hs hi hc hat <;>
      obtain ⟨r, hr, -⟩ := Option.bind_eq_some_iff.1 hq <;>
      exact Option.isSome_iff_exists.2 ⟨r, hr⟩
  have hlt : i < p.calls.size := (Array.getElem?_eq_some_iff.1 hc).1
  constructor
  · rw [Bool.eq_false_iff]
    intro hq
    rw [act_eq_none_of_quiet hq (by simp [internalEvents, timerEvents, hlt])] at hstep
    cases hstep
  · have hgo : (p.callStep? i).isSome = true := hstep
    simp [act?, expire?, hc, hgo]

/-- A closer has shut the pool and gone on, or the last session was discarded and no task is left
that has yet to close the semaphore. -/
def IsConcluded (p : Pool) : Prop :=
  (∃ f ∈ p.closers, f.hasLocked = true) ∨
    (p.IsSpent ∧ ∀ c ∈ p.calls, c.task.isSealing = false)

lemma closed_of_isConcluded (h : History config start log p) (hc : p.IsConcluded) :
    p.semaphore.closed = true := by
  rcases hc with ⟨f, hf, hl⟩ | ⟨hs, hno⟩
  · exact (shutting_of_history h).locked f hf hl
  · rcases (ending_of_history h).spent hs with hclosed | ⟨i, c, hc, hseal⟩
    · exact hclosed
    · exact absurd (hseal.symm.trans (hno c (Array.mem_of_getElem? hc))) nofun

/-- In a quiet pool, whatever closes the semaphore has closed it. -/
lemma isConcluded_of_quiet (h : History config start log p) (hq : p.isQuiet = true)
    (ho : p.IsOver) : p.IsConcluded := by
  rcases ho with ho | hs
  · left
    have hbegun : ¬∀ f ∈ p.closers, f = .arrived := by
      rw [← (shutting_of_history h).arrived, ho]
      nofun
    push Not at hbegun
    obtain ⟨f, hf, hne⟩ := hbegun
    obtain ⟨k, hk⟩ := List.mem_iff_getElem?.1 hf
    have hlt : k < p.closers.length := (List.getElem?_eq_some_iff.1 hk).1
    have hnone := act_eq_none_of_quiet hq (e := .closer k)
      (by simp [internalEvents, timerEvents, hlt])
    refine ⟨f, hf, ?_⟩
    cases f with
    | arrived => exact absurd rfl hne
    | drained sessions => simp [act?, closerStep?, hk] at hnone
    | clearing | disconnecting | done => rfl
  · refine .inr ⟨hs, ?_⟩
    intro c hc
    obtain ⟨i, hi⟩ := Array.mem_iff_getElem?.1 hc
    have hlt : i < p.calls.size := (Array.getElem?_eq_some_iff.1 hi).1
    have hnone := act_eq_none_of_quiet hq (e := .task i)
      (by simp [internalEvents, timerEvents, hlt])
    cases ht : c.task with
    | sealing outcome => simp [act?, taskStep?, hi, ht] at hnone
    | _ => rfl

/-- A caller that time passes for waits at an open pool with a session that is not discarded. -/
lemma open_of_waiting (h : History config start log p) {i : Nat} {c : Call}
    (hc : p.calls[i]? = some c) (hph : c.phase = .waiting) (hq : p.isQuiet = true) :
    p.isOpen = true ∧ (0 < config.poolSize → 0 < p.live) := by
  have hover : ¬p.IsOver := by
    intro ho
    have hs := closed_of_isConcluded h (isConcluded_of_quiet h hq ho)
    have hidle := idle_eq_nil_of_closed h hs
    have hloud := (not_waiting_of_closed hs hidle hc (by rw [hph]; rfl)).1
    exact absurd (hq.symm.trans hloud) nofun
  have hopen : p.isOpen = true := by
    by_contra hno
    exact hover (.inl (by simpa using hno))
  refine ⟨hopen, fun hsize => ?_⟩
  by_contra hno
  have hlive : p.live = 0 := by omega
  -- all sessions of an open pool without live ones were discarded
  have hacc := accounts_of_history h
  have htotal := hacc.live
  rw [← hacc.discarded, countP_isClosed_of_isOpen h hopen, hlive, config_of_history h] at htotal
  exact hover (.inr ⟨hlive, by omega⟩)

/-- Whatever callers, tasks, closers, channels and clock do. A caller is told that the pool is
exhausted only once the pool has been shut or every session has been discarded, so that none is
idle or in use. After that, as soon as the step that ended the pool is done, whoever is at checkout
and whoever comes later gets no session, does not run out of time, and is told so in at most two
steps of its own, before time passes. So time passes for a waiting caller only at an open pool that
still has a session. -/
theorem exhausted_once_over (h : History config start log p) :
    (∀ (i : Nat) (c : Call), p.calls[i]? = some c → c.phase.isExhausted = true →
      p.isOpen = false ∨
        (p.IsSpent ∧ p.discarded = config.poolSize ∧ p.idle = [] ∧ p.inUse = 0)) ∧
    (p.IsConcluded → ∀ q, Onward p q → ∀ (i : Nat) (c : Call), q.calls[i]? = some c →
      (∀ b, p.calls[i]? = some b → b.phase.isAtCheckout = true) →
        c.phase.GoesWithout ∧
        (c.phase.isAtCheckout = true →
          q.isQuiet = false ∧ q.act? (.expire i) = none ∧
          ∃ r, (q.run? [.call i] = some r ∨ q.run? [.call i, .call i] = some r) ∧
            Refused r i)) ∧
    (∀ (i : Nat) (c : Call), p.calls[i]? = some c → c.phase = .waiting → p.isQuiet = true →
      p.isOpen = true ∧ (0 < config.poolSize → 0 < p.live)) := by
  refine ⟨?_, ?_, fun i c hc hph hq => open_of_waiting h hc hph hq⟩
  · intro i c hc htold
    have hover := (ending_of_history h).told i c hc htold
    cases ho : p.isOpen with
    | false => exact .inl rfl
    | true =>
      obtain ⟨hdis, hlive, hidle, huse⟩ := all_discarded h ho hover
      rcases hover with hno | hspent
      · exact absurd (ho.symm.trans hno) nofun
      · exact .inr ⟨hspent, hdis, hidle, huse⟩
  · intro hconcluded q ho i c hc hall
    obtain ⟨⟨log', hq⟩, hclosed, hcalls⟩ :=
      goesWithout_of_onward h (closed_of_isConcluded h hconcluded) ho
    have hidle := idle_eq_nil_of_closed hq hclosed
    refine ⟨hcalls i c hc fun b hb => .inl (hall b hb), fun hat => ?_⟩
    obtain ⟨hloud, hexpire⟩ := not_waiting_of_closed hclosed hidle hc hat
    exact ⟨hloud, hexpire, refused_soon hclosed hidle hc hat⟩

/-- The only session could not be opened. One call gets it and discards it while another waits. -/
def unreachableRun : List Event :=
  [.session 0 (.opened false), .connected, .arrive "g.V()" (.ofMillis 50),
    .arrive "g.E()" (.ofMillis 50), .call 0, .call 0, .call 0, .call 0, .call 0, .call 1, .call 1,
    .begin 0 Uuid.nil, .session 0 .claim, .task 0, .task 0, .task 0, .session 0 .claim, .task 0,
    .task 0]

/-- The waiting caller goes on, and a third call comes. -/
def afterwards : List Event := [.call 1, .arrive "g.V()" (.ofMillis 50)]

theorem exhausted_once_over_of_unreachable :
    ∃ p q, (Pool.opening loneSession (.ofMillis 0)).run? unreachableRun = some p ∧
      p.IsConcluded ∧ p.run? afterwards = some q ∧
      (q.isOpen = false ∨
        (q.IsSpent ∧ q.discarded = 1 ∧ q.idle = [] ∧ q.inUse = 0)) ∧
      q.isQuiet = false ∧ q.act? (.expire 2) = none ∧
      ∃ r, (q.run? [.call 2] = some r ∨ q.run? [.call 2, .call 2] = some r) ∧ Refused r 2 := by
  have hrun : ((Pool.opening loneSession (.ofMillis 0)).run? unreachableRun).any (fun p =>
      p.live = 0 ∧ 0 < p.discarded ∧ p.calls.size = 2 ∧
      (p.calls.all fun c => !c.task.isSealing) ∧
      (p.run? afterwards).any fun q =>
        q.calls[1]?.any (·.phase.isExhausted) ∧ q.calls[2]?.any (·.phase.isAtCheckout)) = true := by
    decide +kernel
  obtain ⟨p, hp, hstate⟩ := (Option.any_eq_true _ _).1 hrun
  obtain ⟨hlive, hdis, hsize, hseal, hlater⟩ := of_decide_eq_true hstate
  obtain ⟨q, hq, hcalls⟩ := (Option.any_eq_true _ _).1 hlater
  obtain ⟨htold, hnew⟩ := of_decide_eq_true hcalls
  obtain ⟨b, hb, hphase⟩ := (Option.any_eq_true _ _).1 htold
  obtain ⟨c, hc, hat⟩ := (Option.any_eq_true _ _).1 hnew
  have hconcluded : p.IsConcluded := by
    refine .inr ⟨⟨hlive, hdis⟩, ?_⟩
    intro a ha
    simpa using Array.all_eq_true'.1 hseal a ha
  have hist := history_of_run .opening hp
  have hpool := (exhausted_once_over hist).2.1 hconcluded q (onward_of_run hq) 2 c hc
    (fun a ha => absurd ha (by simp [hsize]))
  refine ⟨p, q, hp, hconcluded, hq, ?_, hpool.2 hat⟩
  exact (exhausted_once_over (history_of_run hist hq)).1 1 b hb hphase

end Pool

end GraphClient
