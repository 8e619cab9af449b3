import GraphClient.Proofs.History

/-!
# The books of a pool

The counters of a pool are written one after another, and others may look at them in between. What
they say is right at every moment once the calls that are between two writes are counted in.
-/

namespace GraphClient

namespace Call

/-- The call has used up a permit and has not taken a session. -/
def isPermitted (c : Call) : Bool :=
  match c.phase with
  | .permitted => true
  | _ => false

/-- The call has put its session back and has not given its permit back. -/
def isPermitting (c : Call) : Bool :=
  match c.task with
  | .permitting _ => true
  | _ => false

/-- The session of the call counts as in use. -/
def isCounted (c : Call) : Bool :=
  match c.task with
  | .spawned _ | .submitting _ | .expiring _ | .releasing _ _ => true
  | _ => false

end Call

namespace Pool

/-- How many calls of a pool are so. -/
def tally (p : Pool) (f : Call → Bool) : Nat := p.calls.toList.countP f

/-- The idle sessions of an open pool are those for which there is a permit: one that is free or was
given out, one that a caller has used up, or one that a task has yet to give back. -/
def Permitted (p : Pool) : Prop :=
  p.isOpen = true →
    p.idle.length =
      p.semaphore.available + p.tally Call.isPermitted + p.tally Call.isPermitting

/-- What the counters of a pool say. -/
structure Books (p : Pool) : Prop where
  permits : Permitted p
  inUse : p.inUse = p.tally Call.isCounted
  live : p.live = p.holdings.length

variable {p q : Pool}

lemma countP_set {α : Type} (f : α → Bool) {l : List α} {i : Nat} {a : α} (b : α)
    (h : l[i]? = some a) :
    (l.set i b).countP f + (f a).toNat = l.countP f + (f b).toNat := by
  induction l generalizing i with
  | nil => simp at h
  | cons c l ih =>
    cases i with
    | zero =>
      rw [List.getElem?_cons_zero, Option.some.injEq] at h
      subst h
      rw [List.set_cons_zero, List.countP_cons, List.countP_cons]
      cases f c <;> cases f b <;> simp
    | succ i =>
      rw [List.getElem?_cons_succ] at h
      have := ih h
      rw [List.set_cons_succ, List.countP_cons, List.countP_cons]
      omega

lemma tally_set (f : Call → Bool) {i : Nat} {c : Call} (c' : Call) (hc : p.calls[i]? = some c)
    (hq : q.calls = p.calls.setIfInBounds i c') :
    q.tally f + (f c).toNat = p.tally f + (f c').toNat := by
  have hc' : p.calls.toList[i]? = some c := by simpa using hc
  rw [tally, tally, hq, Array.toList_setIfInBounds]
  exact countP_set f c' hc'

lemma tally_push (f : Call → Bool) (c : Call) (hq : q.calls = p.calls.push c) :
    q.tally f = p.tally f + (f c).toNat := by
  rw [tally, tally, hq, Array.toList_push, List.countP_append]
  cases h : f c <;> simp [h]

lemma tally_pos {f : Call → Bool} {i : Nat} {c : Call} (hc : p.calls[i]? = some c)
    (hf : f c = true) : 0 < p.tally f := by
  have hmem : c ∈ p.calls.toList := Array.mem_toList_iff.2 (Array.mem_of_getElem? hc)
  exact List.countP_pos_iff.2 ⟨c, hmem, hf⟩

lemma tally_add {f g h : Call → Bool}
    (hfgh : ∀ c ∈ p.calls, (f c).toNat = (g c).toNat + (h c).toNat) :
    p.tally f = p.tally g + p.tally h := by
  have hall : ∀ c ∈ p.calls.toList, (f c).toNat = (g c).toNat + (h c).toNat :=
    fun c hc => hfgh c (Array.mem_toList_iff.1 hc)
  rw [tally, tally, tally]
  generalize p.calls.toList = calls at hall
  induction calls with
  | nil => rfl
  | cons c calls ih =>
    have hc := hall c List.mem_cons_self
    have hcalls := ih fun c hc => hall c (List.mem_cons_of_mem _ hc)
    rw [List.countP_cons, List.countP_cons, List.countP_cons, hcalls]
    cases hf : f c <;> cases hg : g c <;> cases hh : h c <;> simp_all <;> omega

lemma live_of_move {e : Event} (hp : Custody p) (hl : p.live = p.holdings.length)
    (h : Move p e q) : q.live = q.holdings.length := by
  rcases proceeds_or_shift hp h with ⟨s, event, x, y, -, -, -, rfl⟩ | ⟨-, hshift⟩
  · exact hl
  · cases hshift with
    | keep hh _ hlive => rw [hlive, hl, hh.length_eq]
    | turn s x y r r' _ _ _ hh hlive =>
      have hlength := hh.length_eq
      rw [List.length_append, List.length_append] at hlength
      omega

lemma inUse_of_phase {i : Nat} {c : Call} {phase : CallPhase} (hu : p.inUse = p.tally Call.isCounted)
    (hc : p.calls[i]? = some c) (hq : q.calls = p.calls.setIfInBounds i { c with phase })
    (hi : q.inUse = p.inUse) : q.inUse = q.tally Call.isCounted := by
  have htally := tally_set Call.isCounted { c with phase } hc hq
  have hsame : Call.isCounted { c with phase } = c.isCounted := rfl
  rw [hsame] at htally
  omega

lemma inUse_of_task {i : Nat} {c : Call} {task : TaskPhase} {u v : Bool}
    (hu : p.inUse = p.tally Call.isCounted) (hc : p.calls[i]? = some c)
    (hq : q.calls = p.calls.setIfInBounds i { c with task })
    (hb : c.isCounted = u) (ha : Call.isCounted { c with task } = v)
    (hi : q.inUse = p.inUse + v.toNat - u.toNat) : q.inUse = q.tally Call.isCounted := by
  have htally := tally_set Call.isCounted { c with task } hc hq
  rw [hb, ha] at htally
  omega

lemma inUse_of_move {e : Event} (hp : Custody p) (hu : p.inUse = p.tally Call.isCounted)
    (h : Move p e q) : q.inUse = q.tally Call.isCounted := by
  cases h with
  | arrive script timeout =>
    have hpush := tally_push (q := p.arrive script timeout) Call.isCounted _ rfl
    rw [hpush]
    exact hu
  | enter _ _ hc | turnAway _ _ hc | refuse _ _ hc | ask _ _ hc | giveUp _ _ hc
  | permit _ _ hc | miss _ _ hc | take _ _ _ _ hc | deliver _ _ _ hc | expireWaiting _ _ hc
  | expireRunning _ _ hc | abandonWaiting _ _ hc | abandonEarly _ _ hc
  | abandonRunning _ _ hc => exact inUse_of_phase hu hc rfl rfl
  | lend i c s hc hph =>
    have ht : c.task = .none := hp.early i c hc (by rw [hph]; rfl)
    have htally := tally_set (q := p.lend i c s) Call.isCounted _ hc rfl
    have hb : c.isCounted = false := by rw [Call.isCounted, ht]
    rw [hb] at htally
    have hi : (p.lend i c s).inUse = p.inUse + 1 := rfl
    rw [hi, hu]
    exact htally.symm
  | begin _ _ _ _ _ hc ht | drain _ _ _ _ hc ht =>
    exact inUse_of_task (u := true) (v := true) hu hc rfl (by rw [Call.isCounted, ht]) rfl rfl
  | settle _ _ _ _ _ hc ht | lapse _ _ _ _ hc ht =>
    exact inUse_of_task (u := true) (v := true) hu hc rfl (by rw [Call.isCounted, ht]) rfl rfl
  | uncount _ _ _ _ hc ht =>
    exact inUse_of_task (u := true) (v := false) hu hc rfl (by rw [Call.isCounted, ht]) rfl rfl
  | putBack _ _ _ _ _ hc ht | reject _ _ _ _ _ hc ht | repay _ _ _ hc ht
  | sealUp _ _ _ hc ht =>
    exact inUse_of_task (u := false) (v := false) hu hc rfl (by rw [Call.isCounted, ht]) rfl rfl
  | drop _ _ _ _ _ hc ht =>
    refine inUse_of_task (u := false) (v := false) hu hc rfl (by rw [Call.isCounted, ht]) ?_ rfl
    split <;> rfl
  | connected | close | shut | lock | allClosed | endNext | endOne | session => exact hu

lemma permitted_of_phase {i : Nat} {c : Call} {phase : CallPhase} {u v : Bool}
    (hp : Permitted p) (hc : p.calls[i]? = some c)
    (hq : q.calls = p.calls.setIfInBounds i { c with phase }) (ho : q.isOpen = p.isOpen)
    (hb : c.isPermitted = u) (ha : Call.isPermitted { c with phase } = v)
    (hi : q.idle.length + p.semaphore.available + u.toNat =
      p.idle.length + q.semaphore.available + v.toNat) : Permitted q := by
  intro hopen
  rw [ho] at hopen
  have hbefore := hp hopen
  have h₁ := tally_set Call.isPermitted { c with phase } hc hq
  have h₂ := tally_set Call.isPermitting { c with phase } hc hq
  have hsame : Call.isPermitting { c with phase } = c.isPermitting := rfl
  rw [hb, ha] at h₁
  rw [hsame] at h₂
  omega

lemma permitted_of_task {i : Nat} {c : Call} {task : TaskPhase} {u v : Bool}
    (hp : Permitted p) (hc : p.calls[i]? = some c)
    (hq : q.calls = p.calls.setIfInBounds i { c with task }) (ho : q.isOpen = p.isOpen)
    (hb : c.isPermitting = u) (ha : Call.isPermitting { c with task } = v)
    (hi : q.idle.length + p.semaphore.available + u.toNat =
      p.idle.length + q.semaphore.available + v.toNat) : Permitted q := by
  intro hopen
  rw [ho] at hopen
  have hbefore := hp hopen
  have h₁ := tally_set Call.isPermitted { c with task } hc hq
  have h₂ := tally_set Call.isPermitting { c with task } hc hq
  have hsame : Call.isPermitted { c with task } = c.isPermitted := rfl
  rw [hsame] at h₁
  rw [hb, ha] at h₂
  omega

lemma permitted_keep {i : Nat} {c : Call} {phase : CallPhase} (hp : Permitted p)
    (hc : p.calls[i]? = some c) (hq : q.calls = p.calls.setIfInBounds i { c with phase })
    (ho : q.isOpen = p.isOpen) (hi : q.idle = p.idle)
    (hs : q.semaphore.available = p.semaphore.available)
    (hb : c.isPermitted = false) (ha : Call.isPermitted { c with phase } = false) :
    Permitted q := by
  apply permitted_of_phase hp hc hq ho hb ha
  rw [hi, hs]

lemma permitted_of_move {e : Event} (hcust : Custody p) (hp : Permitted p) (h : Move p e q) :
    Permitted q := by
  cases h with
  | connected | close | lock | allClosed | endNext | endOne | session => exact hp
  | arrive script timeout =>
    intro hopen
    have hbefore := hp hopen
    rw [tally_push (q := p.arrive script timeout) Call.isPermitted _ rfl,
      tally_push (q := p.arrive script timeout) Call.isPermitting _ rfl]
    exact hbefore
  | shut =>
    intro hopen
    cases hopen
  | enter _ _ hc hph | turnAway _ _ hc hph | refuse _ _ hc hph | deliver _ _ _ hc hph
  | expireRunning _ _ hc hph | abandonEarly _ _ hc hph | abandonRunning _ _ hc hph =>
    exact permitted_keep hp hc rfl rfl rfl rfl (by rw [Call.isPermitted, hph]) rfl
  | ask i c hc hph =>
    exact permitted_keep hp hc rfl rfl rfl (Semaphore.available_ask _ i)
      (by rw [Call.isPermitted, hph]) rfl
  | giveUp i _ hc hph | expireWaiting i _ hc hph | abandonWaiting i _ hc hph =>
    exact permitted_keep hp hc rfl rfl rfl (Semaphore.available_leave _ i)
      (by rw [Call.isPermitted, hph]) rfl
  | permit i c hc hph hs hg =>
    refine permitted_of_phase (u := false) (v := true) hp hc rfl rfl
      (by rw [Call.isPermitted, hph]) rfl ?_
    have hone := Semaphore.available_consume hg
    change p.idle.length + _ + 0 = p.idle.length + (p.semaphore.consume i).available + 1
    omega
  | miss i c hc hph hi =>
    intro hopen
    have hbefore := hp hopen
    have hpos : 0 < p.tally Call.isPermitted :=
      tally_pos hc (by rw [Call.isPermitted, hph])
    rw [hi, List.length_nil] at hbefore
    omega
  | take i c s rest hc hph hi =>
    refine permitted_of_phase (u := true) (v := false) hp hc rfl rfl
      (by rw [Call.isPermitted, hph]) rfl ?_
    rw [hi, List.length_cons]
    change rest.length + p.semaphore.available + 1 = rest.length + 1 + p.semaphore.available + 0
    omega
  | lend i c s hc hph =>
    have ht : c.task = .none := hcust.early i c hc (by rw [hph]; rfl)
    intro hopen
    have hbefore := hp hopen
    have h₁ := tally_set (q := p.lend i c s) Call.isPermitted _ hc rfl
    have h₂ := tally_set (q := p.lend i c s) Call.isPermitting _ hc rfl
    rw [show c.isPermitted = false by rw [Call.isPermitted, hph]] at h₁
    rw [show c.isPermitting = false by rw [Call.isPermitting, ht]] at h₂
    change (p.lend i c s).tally Call.isPermitted + 0 = p.tally Call.isPermitted + 0 at h₁
    change (p.lend i c s).tally Call.isPermitting + 0 = p.tally Call.isPermitting + 0 at h₂
    change p.idle.length = p.semaphore.available + _ + _
    omega
  | begin _ _ _ _ _ hc ht | settle _ _ _ _ _ hc ht | lapse _ _ _ _ hc ht
  | uncount _ _ _ _ hc ht | reject _ _ _ _ _ hc ht | sealUp _ _ _ hc ht
  | drain _ _ _ _ hc ht =>
    exact permitted_of_task (u := false) (v := false) hp hc rfl rfl
      (by rw [Call.isPermitting, ht]) rfl rfl
  | drop _ _ _ _ _ hc ht =>
    refine permitted_of_task (u := false) (v := false) hp hc rfl rfl
      (by rw [Call.isPermitting, ht]) ?_ rfl
    split <;> rfl
  | putBack i c s x outcome hc ht =>
    refine permitted_of_task (u := false) (v := true) hp hc rfl rfl
      (by rw [Call.isPermitting, ht]) rfl ?_
    rw [setCall_idle, List.length_append, List.length_singleton]
    change _ + 1 + p.semaphore.available + 0 = _ + p.semaphore.available + 1
    omega
  | repay i c outcome hc ht =>
    refine permitted_of_task (u := true) (v := false) hp hc rfl rfl
      (by rw [Call.isPermitting, ht]) rfl ?_
    have hone := Semaphore.available_release p.semaphore
    change p.idle.length + _ + 1 = p.idle.length + p.semaphore.release.available + 0
    omega

theorem books_of_history {config : ClientConfig} {start : Instant} {log : List Note}
    (h : History config start log p) : Books p := by
  induction h with
  | opening =>
    refine ⟨?_, rfl, ?_⟩
    · intro _
      simp [Pool.opening, Semaphore.available, Semaphore.new, tally]
    · simp [Pool.opening, holdings]
  | act h he ih =>
    have hcust := custody_of_history h
    have hmove := move_of_act he
    exact ⟨permitted_of_move hcust ih.permits hmove, inUse_of_move hcust ih.inUse hmove,
      live_of_move hcust ih.live hmove⟩
  | wait _ _ ih => exact ⟨ih.permits, ih.inUse, ih.live⟩

end Pool

end GraphClient
