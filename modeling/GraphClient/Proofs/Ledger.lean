import GraphClient.Proofs.Books

/-!
# The ledger of a pool

What the history of a pool says about its calls and its counters: a call has the session that it was
lent until it hands it back, and the counters agree with what has been noted.
-/

namespace GraphClient

namespace Note

def isLent : Note → Bool
  | lent _ _ => true
  | _ => false

def isReturned : Note → Bool
  | returned _ _ => true
  | _ => false

def isDiscarded : Note → Bool
  | discarded _ _ => true
  | _ => false

def isClosed : Note → Bool
  | closed _ => true
  | _ => false

/-- The note is about a session that changes hands. -/
def isTransfer (n : Note) : Bool := n.isLent || n.isReturned || n.isDiscarded || n.isClosed

end Note

namespace TaskPhase

/-- The task has not ended its request. -/
def isOut : TaskPhase → Bool
  | spawned _ | submitting _ => true
  | _ => false

/-- There is a task. -/
def isThere : TaskPhase → Bool
  | none => false
  | _ => true

end TaskPhase

namespace Call

/-- The task of the call has a session. -/
def hasSession (c : Call) : Bool := c.task.session?.isSome

/-- The session of the call is no longer in use, and its task has yet to hand it back. -/
def isLeaving (c : Call) : Bool :=
  match c.task with
  | .placing _ _ | .discarding _ _ => true
  | _ => false

end Call

namespace Pool

/-- What a move does to the calls and the counters, with the note about it. -/
inductive Deal (p q : Pool) : Option Note → Prop
  | arrive (c : Call) (timeout : Duration) (hq : q.calls = p.calls.push c) (ht : c.task = .none)
      (hd : c.deadline = p.now.deadlineAfter timeout)
      (hdd : c.drainDeadline = c.deadline.deadlineAfter p.config.drainTimeout)
      (hn : q.checkouts = p.checkouts ∧ q.discarded = p.discarded ∧ q.live = p.live) :
      Deal p q (some (.called p.calls.size p.now timeout))
  | phase (i : Nat) (c : Call) (phase : CallPhase) (hc : p.calls[i]? = some c)
      (hq : q.calls = p.calls.setIfInBounds i { c with phase })
      (he : phase.isEarly = true → c.phase.isEarly = true)
      (hn : q.checkouts = p.checkouts ∧ q.discarded = p.discarded ∧ q.live = p.live) :
      Deal p q none
  | lend (i : Nat) (c : Call) (s : Nat) (hc : p.calls[i]? = some c) (ht : c.task = .none)
      (he : c.phase.isEarly = true)
      (hq : q.calls = p.calls.setIfInBounds i { c with phase := .running, task := .spawned s })
      (hn : q.checkouts = p.checkouts + 1 ∧ q.discarded = p.discarded ∧ q.live = p.live) :
      Deal p q (some (.lent i s))
  | task (i : Nat) (c : Call) (task : TaskPhase) (hc : p.calls[i]? = some c)
      (hq : q.calls = p.calls.setIfInBounds i { c with task })
      (hs : task.session? = c.task.session?) (ho : task.isOut = true → c.task.isOut = true)
      (ht : task.isThere = true)
      (hn : q.checkouts = p.checkouts ∧ q.discarded = p.discarded ∧ q.live = p.live) :
      Deal p q none
  | putBack (i : Nat) (c : Call) (s : Nat) (task : TaskPhase) (hc : p.calls[i]? = some c)
      (hq : q.calls = p.calls.setIfInBounds i { c with task }) (hs : c.task.session? = some s)
      (hs' : task.session? = none) (ht : task.isThere = true)
      (hn : q.checkouts = p.checkouts ∧ q.discarded = p.discarded ∧ q.live = p.live) :
      Deal p q (some (.returned i s))
  | discard (i : Nat) (c : Call) (s : Nat) (task : TaskPhase) (hc : p.calls[i]? = some c)
      (hq : q.calls = p.calls.setIfInBounds i { c with task }) (hs : c.task.session? = some s)
      (hs' : task.session? = none) (ht : task.isThere = true)
      (hn : q.checkouts = p.checkouts ∧ q.discarded = p.discarded + 1 ∧ q.live + 1 = p.live) :
      Deal p q (some (.discarded i s))
  | close (s : Nat) (hq : q.calls = p.calls)
      (hn : q.checkouts = p.checkouts ∧ q.discarded = p.discarded ∧ q.live + 1 = p.live) :
      Deal p q (some (.closed s))
  | other (note : Option Note) (hq : q.calls = p.calls)
      (ho : ∀ n, note = some n → n.isTransfer = false ∧ ∀ i t d, n ≠ .called i t d)
      (hn : q.checkouts = p.checkouts ∧ q.discarded = p.discarded ∧ q.live = p.live) :
      Deal p q note

variable {config : ClientConfig} {start : Instant} {log : List Note} {p q : Pool}

lemma note_call {i : Nat} {c : Call} (hc : p.calls[i]? = some c)
    (hp : ∀ s, c.phase ≠ .holding s) : p.note? (.call i) = none := by
  change p.calls[i]?.bind _ = none
  rw [hc, Option.bind_some]
  split
  · rename_i s hs
    exact absurd hs (hp s)
  · rfl

lemma note_task {i : Nat} {c : Call} (hc : p.calls[i]? = some c) :
    p.note? (.task i) = p.taskNote? i c := by
  change p.calls[i]?.bind _ = _
  rw [hc]
  rfl

lemma deal_of_phase {i : Nat} {c : Call} {phase : CallPhase} (hc : p.calls[i]? = some c)
    (hp : ∀ s, c.phase ≠ .holding s) (hq : q.calls = p.calls.setIfInBounds i { c with phase })
    (he : phase.isEarly = true → c.phase.isEarly = true)
    (hn : q.checkouts = p.checkouts ∧ q.discarded = p.discarded ∧ q.live = p.live) :
    Deal p q (p.note? (.call i)) := by
  rw [note_call hc hp]
  exact .phase i c phase hc hq he hn

lemma deal_of_task {i : Nat} {c : Call} {task : TaskPhase} (hc : p.calls[i]? = some c)
    (hnote : p.taskNote? i c = none) (hq : q.calls = p.calls.setIfInBounds i { c with task })
    (hs : task.session? = c.task.session?) (ho : task.isOut = true → c.task.isOut = true)
    (ht : task.isThere = true)
    (hn : q.checkouts = p.checkouts ∧ q.discarded = p.discarded ∧ q.live = p.live) :
    Deal p q (p.note? (.task i)) := by
  rw [note_task hc, hnote]
  exact .task i c task hc hq hs ho ht hn

lemma deal_of_closer {k : Nat} {f : CloserPhase} (hk : p.closers[k]? = some f)
    (hf : ∀ s rest, f ≠ .disconnecting s rest) (hq : q.calls = p.calls)
    (hn : q.checkouts = p.checkouts ∧ q.discarded = p.discarded ∧ q.live = p.live) :
    Deal p q (p.note? (.closer k)) := by
  have hnote : p.note? (.closer k) = none := by
    change p.closers[k]?.bind _ = none
    rw [hk, Option.bind_some]
    split
    · rename_i s rest
      exact absurd rfl (hf s rest)
    · rfl
  rw [hnote]
  exact .other none hq nofun hn

lemma live_pos (hp : Custody p) (hb : Books p) {s : Nat} {r : Role} (hr : p.role s = some r) :
    p.live - 1 + 1 = p.live := by
  have hmem := (role_eq_some_iff hp.nodup).1 hr
  have hpos := List.length_pos_of_mem hmem
  have hlive := hb.live
  omega

/-- What every move deals. -/
theorem deal_of_move {e : Event} (hp : Custody p) (hb : Books p) (h : Move p e q) :
    Deal p q (p.note? e) := by
  cases h with
  | connected | close => exact .other none rfl nofun ⟨rfl, rfl, rfl⟩
  | arrive script timeout => exact .arrive _ timeout rfl rfl rfl rfl ⟨rfl, rfl, rfl⟩
  | enter i c hc hph | ask i c hc hph | permit i c hc hph =>
    refine deal_of_phase hc (fun s => by rw [hph]; nofun) rfl (fun _ => by rw [hph]; rfl)
      ⟨rfl, rfl, rfl⟩
  | turnAway i c hc hph | refuse i c hc hph | giveUp i c hc hph | miss i c hc hph
  | deliver i c _ hc hph =>
    exact deal_of_phase hc (fun s => by rw [hph]; nofun) rfl nofun ⟨rfl, rfl, rfl⟩
  | take i c s rest hc hph =>
    exact deal_of_phase hc (fun s => by rw [hph]; nofun) rfl (fun _ => by rw [hph]; rfl)
      ⟨rfl, rfl, rfl⟩
  | lend i c s hc hph =>
    have hearly : c.phase.isEarly = true := by rw [hph]; rfl
    have hnote : p.note? (.call i) = some (.lent i s) := by
      change p.calls[i]?.bind _ = _
      rw [hc, Option.bind_some, hph]
    rw [hnote]
    exact .lend i c s hc (hp.early i c hc hearly) hearly rfl ⟨rfl, rfl, rfl⟩
  | expireWaiting i c hc | expireRunning i c hc | abandonWaiting i c hc | abandonEarly i c hc
  | abandonRunning i c hc =>
    exact .phase i c _ hc rfl nofun ⟨rfl, rfl, rfl⟩
  | begin i id c s x hc ht =>
    exact .task i c _ hc rfl (by rw [ht]; rfl) (fun _ => by rw [ht]; rfl) rfl ⟨rfl, rfl, rfl⟩
  | drain i c s x hc ht =>
    exact .task i c _ hc rfl (by rw [ht]; rfl) nofun rfl ⟨rfl, rfl, rfl⟩
  | settle i c s x outcome hc ht | lapse i c s x hc ht | uncount i c s outcome hc ht
  | repay i c outcome hc ht | sealUp i c outcome hc ht =>
    exact deal_of_task hc (by rw [taskNote?, ht]) rfl (by rw [ht]; rfl) nofun rfl
      ⟨rfl, rfl, rfl⟩
  | reject i c s x outcome hc ht hx hf hr =>
    have hnote : p.taskNote? i c = none := by
      rw [taskNote?, ht]
      dsimp only
      rw [if_neg]
      rintro ⟨hopen, hcon⟩
      rw [hx] at hcon
      exact hf ⟨by simpa using hcon, hopen⟩
    exact deal_of_task hc hnote rfl (by rw [ht]; rfl) nofun rfl ⟨rfl, rfl, rfl⟩
  | putBack i c s x outcome hc ht hx hf ho =>
    have hnote : p.note? (.task i) = some (.returned i s) := by
      rw [note_task hc, taskNote?, ht]
      dsimp only
      rw [if_pos]
      exact ⟨ho, by rw [hx]; simpa using hf⟩
    rw [hnote]
    exact .putBack i c s _ hc rfl (by rw [ht]; rfl) rfl rfl ⟨rfl, rfl, rfl⟩
  | drop i c s x outcome hc ht hx hf =>
    have hnote : p.note? (.task i) = some (.discarded i s) := by
      rw [note_task hc, taskNote?, ht]
    have hrole : p.role s = some .ending :=
      role_of_task hp hc (by rw [ht]; exact List.mem_singleton_self _)
    rw [hnote]
    refine .discard i c s _ hc rfl (by rw [ht]; rfl) ?_ ?_ ⟨rfl, rfl, live_pos hp hb hrole⟩
    · split <;> rfl
    · split <;> rfl
  | shut k hk | lock k sessions hk | allClosed k hk | endNext k s rest x hk =>
    exact deal_of_closer hk nofun rfl ⟨rfl, rfl, rfl⟩
  | endOne k s rest x hk =>
    have hnote : p.note? (.closer k) = some (.closed s) := by
      change p.closers[k]?.bind _ = _
      rw [hk]
      rfl
    rw [hnote]
    exact .close s rfl
      ⟨rfl, rfl, live_pos hp hb (role_of_closer hp hk (by exact List.mem_cons_self))⟩
  | session s event x y hx =>
    refine .other _ rfl ?_ ⟨rfl, rfl, rfl⟩
    intro n hn
    cases noted_of_note hn with
    | session _ x _ _ _ hn => cases hn <;> exact ⟨rfl, nofun⟩

/-- What the log says about the sessions of a call. -/
structure Told (log : List Note) (i : Nat) (c : Call) : Prop where
  fresh : c.task.isThere = false → ∀ s, .lent i s ∉ log
  back : ∀ s, .lent i s ∈ log →
    c.task.session? = some s ∨ .returned i s ∈ log ∨ .discarded i s ∈ log

lemma Told.later {i : Nat} {c : Call} (h : Told log i c) (note : Option Note)
    (hn : ∀ s, note ≠ some (.lent i s)) : Told (log ++ note.toList) i c := by
  have hold : ∀ s, .lent i s ∈ log ++ note.toList → .lent i s ∈ log := by
    intro s hs
    rcases List.mem_append.1 hs with hs | hs
    · exact hs
    · rw [Option.mem_toList] at hs
      exact absurd hs (hn s)
  refine ⟨?_, ?_⟩
  · intro ht s hs
    exact h.fresh ht s (hold s hs)
  · intro s hs
    rcases h.back s (hold s hs) with hb | hb | hb
    · exact .inl hb
    · exact .inr (.inl (List.mem_append_left _ hb))
    · exact .inr (.inr (List.mem_append_left _ hb))

/-- The calls, as the log tells them. -/
structure Recorded (log : List Note) (p : Pool) : Prop where
  told : ∀ (i : Nat) (c : Call), p.calls[i]? = some c → Told log i c
  bound : ∀ i s, .lent i s ∈ log → i < p.calls.size
  called : ∀ i t d, .called i t d ∈ log → ∃ c, p.calls[i]? = some c ∧
    c.deadline = t.deadlineAfter d ∧
    c.drainDeadline = c.deadline.deadlineAfter p.config.drainTimeout

lemma call_of_set {i j : Nat} {b c' : Call} (hq : q.calls = p.calls.setIfInBounds i c')
    (hb : q.calls[j]? = some b) : (j = i ∧ b = c') ∨ (j ≠ i ∧ p.calls[j]? = some b) := by
  rw [hq] at hb
  by_cases hij : j = i
  · subst hij
    rw [Array.getElem?_setIfInBounds_self] at hb
    split at hb <;> cases hb
    exact .inl ⟨rfl, rfl⟩
  · rw [Array.getElem?_setIfInBounds_ne (Ne.symm hij)] at hb
    exact .inr ⟨hij, hb⟩

lemma exists_of_set {i j : Nat} {b c c' : Call} (hq : q.calls = p.calls.setIfInBounds i c')
    (hc : p.calls[i]? = some c) (hd : c'.deadline = c.deadline)
    (hdd : c'.drainDeadline = c.drainDeadline) (hb : p.calls[j]? = some b) :
    ∃ b', q.calls[j]? = some b' ∧ b'.deadline = b.deadline ∧
      b'.drainDeadline = b.drainDeadline := by
  rw [hq]
  by_cases hij : j = i
  · subst hij
    rw [hc] at hb
    cases hb
    have hlt : j < p.calls.size := (Array.getElem?_eq_some_iff.1 hc).1
    exact ⟨c', Array.getElem?_setIfInBounds_self_of_lt hlt, hd, hdd⟩
  · exact ⟨b, by rw [Array.getElem?_setIfInBounds_ne (Ne.symm hij), hb], rfl, rfl⟩

lemma Deal.exists_call {note : Option Note} (h : Deal p q note) {j : Nat} {b : Call}
    (hb : p.calls[j]? = some b) :
    ∃ b', q.calls[j]? = some b' ∧ b'.deadline = b.deadline ∧
      b'.drainDeadline = b.drainDeadline := by
  cases h with
  | arrive c _ hq =>
    have hlt : j < p.calls.size := (Array.getElem?_eq_some_iff.1 hb).1
    exact ⟨b, by rw [hq, Array.getElem?_push, if_neg (by omega), hb], rfl, rfl⟩
  | phase _ _ _ hc hq | lend _ _ _ hc _ _ hq | task _ _ _ hc hq | putBack _ _ _ _ hc hq
  | discard _ _ _ _ hc hq => exact exists_of_set hq hc rfl rfl hb
  | close _ hq | other _ hq => exact ⟨b, by rw [hq, hb], rfl, rfl⟩

/-- The session of a call whose task hands it back. -/
lemma told_of_handover {i s : Nat} {c : Call} {task : TaskPhase} {note : Note}
    (h : Told log i c) (hs : c.task.session? = some s) (ht : task.isThere = true)
    (hn : note = .returned i s ∨ note = .discarded i s) :
    Told (log ++ [note]) i { c with task } := by
  have hlater : Told (log ++ (some note).toList) i c :=
    h.later _ fun s' => by rcases hn with rfl | rfl <;> nofun
  refine ⟨?_, ?_⟩
  · intro ht'
    change task.isThere = false at ht'
    rw [ht] at ht'
    cases ht'
  · intro s' hs'
    right
    rcases hlater.back s' hs' with hb | hb
    · rw [hs] at hb
      cases hb
      rcases hn with rfl | rfl
      · exact .inl (List.mem_append_right _ (List.mem_singleton_self _))
      · exact .inr (List.mem_append_right _ (List.mem_singleton_self _))
    · exact hb

lemma told_of_deal {note : Option Note} (hr : Recorded log p) (h : Deal p q note) :
    ∀ (j : Nat) (b : Call), q.calls[j]? = some b → Told (log ++ note.toList) j b := by
  intro j b hb
  cases h with
  | arrive c timeout hq ht =>
    rw [hq, Array.getElem?_push] at hb
    split at hb
    · rename_i hj
      cases hb
      have hfree : ∀ s, .lent j s ∉ log ++ [Note.called p.calls.size p.now timeout] := by
        intro s hs
        rcases List.mem_append.1 hs with hs | hs
        · have hlt := hr.bound j s hs
          omega
        · rw [List.mem_singleton] at hs
          cases hs
      exact ⟨fun _ => hfree, fun s hs => absurd hs (hfree s)⟩
    · exact (hr.told j b hb).later _ nofun
  | phase i c phase hc hq =>
    rcases call_of_set hq hb with ⟨rfl, rfl⟩ | ⟨-, hb⟩
    · have htold := (hr.told j c hc).later none nofun
      exact ⟨htold.fresh, htold.back⟩
    · exact (hr.told j b hb).later _ nofun
  | lend i c s hc ht _ hq =>
    rcases call_of_set hq hb with ⟨rfl, rfl⟩ | ⟨hij, hb⟩
    · refine ⟨nofun, ?_⟩
      intro s' hs'
      rcases List.mem_append.1 hs' with hs' | hs'
      · exact absurd hs' ((hr.told j c hc).fresh (by rw [ht]; rfl) s')
      · rw [Option.toList_some, List.mem_singleton] at hs'
        cases hs'
        exact .inl rfl
    · apply (hr.told j b hb).later
      intro s' heq
      cases heq
      exact hij rfl
  | task i c task hc hq hs _ ht =>
    rcases call_of_set hq hb with ⟨rfl, rfl⟩ | ⟨-, hb⟩
    · have htold := (hr.told j c hc).later none nofun
      refine ⟨?_, ?_⟩
      · intro ht'
        change task.isThere = false at ht'
        rw [ht] at ht'
        cases ht'
      · intro s hsl
        change task.session? = some s ∨ _
        rw [hs]
        exact htold.back s hsl
    · exact (hr.told j b hb).later _ nofun
  | putBack i c s task hc hq hs _ ht =>
    rcases call_of_set hq hb with ⟨rfl, rfl⟩ | ⟨-, hb⟩
    · exact told_of_handover (hr.told j c hc) hs ht (.inl rfl)
    · exact (hr.told j b hb).later _ nofun
  | discard i c s task hc hq hs _ ht =>
    rcases call_of_set hq hb with ⟨rfl, rfl⟩ | ⟨-, hb⟩
    · exact told_of_handover (hr.told j c hc) hs ht (.inr rfl)
    · exact (hr.told j b hb).later _ nofun
  | close s hq =>
    rw [hq] at hb
    exact (hr.told j b hb).later _ nofun
  | other note hq ho =>
    -- a note that is no transfer lends nothing
    rw [hq] at hb
    apply (hr.told j b hb).later
    intro s heq
    have hno := (ho _ heq).1
    cases hno

lemma recorded_of_deal {note : Option Note} (hr : Recorded log p) (h : Deal p q note)
    (hconfig : q.config = p.config) : Recorded (log ++ note.toList) q := by
  refine ⟨told_of_deal hr h, ?_, ?_⟩
  · intro i s hs
    have hlt : i < p.calls.size := by
      rcases List.mem_append.1 hs with hs | hs
      · exact hr.bound i s hs
      · rw [Option.mem_toList] at hs
        cases h with
        | lend j c t hc =>
          cases hs
          exact (Array.getElem?_eq_some_iff.1 hc).1
        | other note _ ho =>
          have hno := (ho _ hs).1
          cases hno
        | _ => cases hs
    obtain ⟨c', hc', -⟩ := h.exists_call (Array.getElem?_eq_getElem hlt)
    exact (Array.getElem?_eq_some_iff.1 hc').1
  · intro i t d ht
    rw [hconfig]
    rcases List.mem_append.1 ht with ht | ht
    · obtain ⟨c, hc, hd, hdd⟩ := hr.called i t d ht
      obtain ⟨c', hc', hd', hdd'⟩ := h.exists_call hc
      exact ⟨c', hc', hd'.trans hd, by rw [hdd', hdd, hd']⟩
    · rw [Option.mem_toList] at ht
      cases h with
      | arrive c timeout hq _ hd hdd =>
        cases ht
        exact ⟨c, by rw [hq, Array.getElem?_push, if_pos rfl], hd, hdd⟩
      | other note _ ho => exact absurd rfl ((ho _ ht).2 i t d)
      | _ => cases ht

theorem recorded_of_history (h : History config start log p) : Recorded log p := by
  induction h with
  | opening =>
    refine ⟨?_, nofun, nofun⟩
    intro i c hc
    simp [Pool.opening] at hc
  | act h he ih =>
    have hmove := move_of_act he
    have hdeal := deal_of_move (custody_of_history h) (books_of_history h) hmove
    exact recorded_of_deal ih hdeal (config_of_move hmove)
  | wait _ _ ih => exact ⟨ih.told, ih.bound, ih.called⟩

/-- The counters, as the log tells them. -/
structure Accounts (log : List Note) (p : Pool) : Prop where
  checkouts : p.checkouts = log.countP Note.isLent
  discarded : p.discarded = log.countP Note.isDiscarded
  held : p.tally Call.hasSession + log.countP Note.isReturned + log.countP Note.isDiscarded =
    log.countP Note.isLent
  live : p.live + log.countP Note.isDiscarded + log.countP Note.isClosed = p.config.poolSize

/-- The calls with a session are those in use and those that are handing it back. -/
lemma tally_hasSession :
    p.tally Call.hasSession = p.tally Call.isCounted + p.tally Call.isLeaving := by
  refine tally_add fun c _ => ?_
  unfold Call.hasSession Call.isCounted Call.isLeaving
  cases c.task <;> rfl

lemma hasSession_of_session {c : Call} {s : Nat} (hs : c.task.session? = some s) :
    c.hasSession = true := by
  rw [Call.hasSession, hs]
  rfl

lemma count_note (log : List Note) (f : Note → Bool) (note : Option Note) :
    (log ++ note.toList).countP f = log.countP f + (note.any f).toNat := by
  rw [List.countP_append]
  cases note with
  | none => rfl
  | some n =>
    rw [Option.toList_some, List.countP_singleton, Option.any_some]
    cases f n <;> rfl

/-- The counters after a move, from how far it has moved each of them. -/
lemma accounts_of_counts {note : Option Note} (ha : Accounts log p) (hconfig : q.config = p.config)
    (hc : q.checkouts = p.checkouts + (note.any Note.isLent).toNat)
    (hd : q.discarded = p.discarded + (note.any Note.isDiscarded).toNat)
    (hh : q.tally Call.hasSession + (note.any Note.isReturned).toNat +
      (note.any Note.isDiscarded).toNat =
        p.tally Call.hasSession + (note.any Note.isLent).toNat)
    (hl : q.live + (note.any Note.isDiscarded).toNat + (note.any Note.isClosed).toNat = p.live) :
    Accounts (log ++ note.toList) q := by
  obtain ⟨hcheck, hdis, hheld, hlive⟩ := ha
  have hlent := count_note log Note.isLent note
  have hret := count_note log Note.isReturned note
  have hdisc := count_note log Note.isDiscarded note
  have hclosed := count_note log Note.isClosed note
  refine ⟨?_, ?_, ?_, ?_⟩
  · omega
  · omega
  · omega
  · rw [hconfig]
    omega

lemma accounts_of_deal {note : Option Note} (ha : Accounts log p) (h : Deal p q note)
    (hconfig : q.config = p.config) : Accounts (log ++ note.toList) q := by
  cases h with
  | arrive c timeout hq ht _ _ hn =>
    have htally := tally_push Call.hasSession c hq
    have hno : c.hasSession = false := by rw [Call.hasSession, ht]; rfl
    rw [hno] at htally
    exact accounts_of_counts ha hconfig hn.1 hn.2.1 htally hn.2.2
  | phase i c phase hc hq _ hn =>
    have htally := tally_set Call.hasSession { c with phase } hc hq
    have hsame : Call.hasSession { c with phase } = c.hasSession := rfl
    rw [hsame] at htally
    exact accounts_of_counts ha hconfig hn.1 hn.2.1 (Nat.add_right_cancel htally) hn.2.2
  | lend i c s hc ht _ hq hn =>
    have htally := tally_set Call.hasSession _ hc hq
    have hno : c.hasSession = false := by rw [Call.hasSession, ht]; rfl
    rw [hno] at htally
    exact accounts_of_counts ha hconfig hn.1 hn.2.1 htally hn.2.2
  | task i c task hc hq hs _ _ hn =>
    have htally := tally_set Call.hasSession { c with task } hc hq
    have hsame : Call.hasSession { c with task } = c.hasSession := by
      rw [Call.hasSession, Call.hasSession, hs]
    rw [hsame] at htally
    exact accounts_of_counts ha hconfig hn.1 hn.2.1 (Nat.add_right_cancel htally) hn.2.2
  | putBack i c s task hc hq hs hs' _ hn =>
    have htally := tally_set Call.hasSession { c with task } hc hq
    have hno : Call.hasSession { c with task } = false := by rw [Call.hasSession, hs']; rfl
    rw [hno, hasSession_of_session hs] at htally
    exact accounts_of_counts ha hconfig hn.1 hn.2.1 htally hn.2.2
  | discard i c s task hc hq hs hs' _ hn =>
    have htally := tally_set Call.hasSession { c with task } hc hq
    have hno : Call.hasSession { c with task } = false := by rw [Call.hasSession, hs']; rfl
    rw [hno, hasSession_of_session hs] at htally
    exact accounts_of_counts ha hconfig hn.1 hn.2.1 htally hn.2.2
  | close s hq hn =>
    have htally : q.tally Call.hasSession = p.tally Call.hasSession := by rw [tally, tally, hq]
    exact accounts_of_counts ha hconfig hn.1 hn.2.1 htally hn.2.2
  | other note hq ho hn =>
    have htally : q.tally Call.hasSession = p.tally Call.hasSession := by rw [tally, tally, hq]
    cases note with
    | none => exact accounts_of_counts ha hconfig hn.1 hn.2.1 htally hn.2.2
    | some n =>
      have hno := (ho n rfl).1
      simp only [Note.isTransfer, Bool.or_eq_false_iff] at hno
      obtain ⟨⟨⟨hlent, hret⟩, hdis⟩, hclosed⟩ := hno
      refine accounts_of_counts ha hconfig ?_ ?_ ?_ ?_
      · rw [Option.any_some, hlent]
        exact hn.1
      · rw [Option.any_some, hdis]
        exact hn.2.1
      · rw [Option.any_some, Option.any_some, Option.any_some, hlent, hret, hdis]
        exact htally
      · rw [Option.any_some, Option.any_some, hdis, hclosed]
        exact hn.2.2

theorem accounts_of_history (h : History config start log p) : Accounts log p := by
  induction h with
  | opening => exact ⟨rfl, rfl, rfl, rfl⟩
  | act h he ih =>
    have hmove := move_of_act he
    have hdeal := deal_of_move (custody_of_history h) (books_of_history h) hmove
    exact accounts_of_deal ih hdeal (config_of_move hmove)
  | wait _ _ ih => exact ⟨ih.checkouts, ih.discarded, ih.held, ih.live⟩

end Pool

end GraphClient
