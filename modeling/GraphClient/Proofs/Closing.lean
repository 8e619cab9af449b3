import GraphClient.Client
import GraphClient.Proofs.Answers
import GraphClient.Proofs.Channels
import GraphClient.Proofs.Requests

/-!
# Closing a pool

What a pool keeps to once a close has come back. Nothing is idle any more and nobody gets a session;
the requests that had one go on as before and disconnect it afterwards. Every session ends once, and
with the last of them every channel that was opened has been closed.
-/

namespace GraphClient

namespace Note

/-- The session has been disconnected for good. -/
def isEndOf (s : Nat) : Note → Bool
  | discarded _ t | closed t => t = s
  | _ => false

end Note

namespace Call

/-- The caller has taken a session, or its task has one. -/
def Has (c : Call) (s : Nat) : Prop := c.phase = .holding s ∨ c.task.session? = some s

/-- The call has come to a pool that is shut: it is told so, or has yet to be, or has gone away. -/
def IsLate (c : Call) : Prop :=
  c.task = .none ∧ (c.phase = .arrived ∨ c.phase = .abandoned ∨
    c.phase = .returned (.error (.poolExhausted "Pool is closed")))

lemma has_iff {c : Call} {s : Nat} : c.Has s ↔ s ∈ c.holdings.map (·.1) := by
  rw [Has, holdings, List.map_append, List.mem_append, Pool.mem_phase_holdings,
    Pool.mem_task_holdings]

end Call

namespace Pool

/-- A call has a session. -/
def Has (p : Pool) (i s : Nat) : Prop := ∃ c, p.calls[i]? = some c ∧ c.Has s

variable {config : ClientConfig} {start : Instant} {log : List Note} {p q : Pool} {e : Event}
variable {past path : List Happening} {i s : Nat}

section Endings

lemma role_none_of_move (hp : Custody p) (h : Move p e q) (hr : p.role s = none) :
    q.role s = none := by
  rcases proceeds_or_shift hp h with ⟨t, event, x, y, -, -, -, rfl⟩ | ⟨-, hshift⟩
  · exact hr
  · cases hshift with
    | keep hh => rw [role_of_keep hp.nodup hh, hr]
    | turn t x y r r' _ _ hrole hh _ ht =>
      have hts : s ≠ t := by
        rintro rfl
        rw [hr] at hrole
        subst hrole
        cases ht
      rw [role_of_turn hp.nodup hrole hh, Function.update_of_ne hts, hr]

/-- Whoever ends a session had it, and nobody has it afterwards. -/
lemma role_of_end (hp : Custody p) (h : Move p e q)
    (hn : (p.note? e).any (Note.isEndOf s) = true) :
    p.role s = some .ending ∧ q.role s = none := by
  obtain ⟨note, hnote, hend⟩ := (Option.any_eq_true _ _).1 hn
  have hgone (hrole : p.role s = some .ending)
      (hh : (q.holdings ++ single s (some .ending)).Perm (p.holdings ++ single s none)) :
      p.role s = some .ending ∧ q.role s = none := by
    refine ⟨hrole, ?_⟩
    rw [role_of_turn hp.nodup hrole hh, Function.update_self]
  cases noted_of_note hnote with
  | discarded j c t outcome hc ht =>
    obtain rfl : t = s := by simpa [Note.isEndOf] using hend
    cases h with
    | drop j' c' t' x outcome' hc' ht' =>
      rw [hc] at hc'
      cases hc'
      rw [ht] at ht'
      cases ht'
      refine hgone (role_of_task hp hc (by rw [ht]; exact List.mem_singleton_self _)) ?_
      apply holdings_perm_of_call hc
      · rfl
      · rfl
      · rw [Call.holdings, Call.holdings, ht, List.append_assoc, List.append_assoc, single, single,
          Option.map_none, Option.toList_none, List.append_nil]
        split <;> exact List.Perm.refl _
    | settle _ _ _ _ _ hc' ht' | lapse _ _ _ _ hc' ht' | uncount _ _ _ _ hc' ht'
    | putBack _ _ _ _ _ hc' ht' | reject _ _ _ _ _ hc' ht' | repay _ _ _ hc' ht'
    | sealUp _ _ _ hc' ht' =>
      rw [hc] at hc'
      cases hc'
      rw [ht] at ht'
      cases ht'
  | closed k t rest hk =>
    obtain rfl : t = s := by simpa [Note.isEndOf] using hend
    cases h with
    | endOne k' t' rest' x hk' =>
      rw [hk] at hk'
      cases hk'
      refine hgone (role_of_closer hp hk List.mem_cons_self) ?_
      apply holdings_perm_of_closer hk
      · rfl
      · rfl
      · rw [single, single, Option.map_none, Option.toList_none, List.append_nil,
          List.append_assoc]
        exact List.perm_append_comm.append_left _
    | shut _ hk' | lock _ _ hk' | allClosed _ hk' | endNext _ _ _ _ hk' =>
      rw [hk] at hk'
      cases hk'
  | session t x event note hx hnoted => cases hnoted <;> cases hend
  | called | lent | returned => cases hend

/-- A session ends at most once, and nobody has it after that. -/
theorem ends_once (h : History config start log p) (s : Nat) :
    log.countP (Note.isEndOf s) ≤ 1 ∧
      (0 < log.countP (Note.isEndOf s) → p.role s = none) := by
  induction h with
  | opening => exact ⟨Nat.zero_le 1, nofun⟩
  | @act log p q e h he ih =>
    have hp := custody_of_history h
    have hmove := move_of_act he
    rw [count_note]
    cases hn : (p.note? e).any (Note.isEndOf s) with
    | false => exact ⟨ih.1, fun hpos => role_none_of_move hp hmove (ih.2 hpos)⟩
    | true =>
      obtain ⟨hrole, hgone⟩ := role_of_end hp hmove hn
      have hfirst : log.countP (Note.isEndOf s) = 0 := by
        by_contra hne
        rw [ih.2 (Nat.pos_of_ne_zero hne)] at hrole
        cases hrole
      exact ⟨by rw [hfirst]; decide, fun _ => hgone⟩
  | wait _ _ ih => exact ih

/-- A session that has been disconnected for good is with no call. -/
lemma not_has_of_discarded (h : History config start log p) (hend : .discarded i s ∈ log) :
    ¬p.Has i s := by
  rintro ⟨c, hc, hcs⟩
  have hpos : 0 < log.countP (Note.isEndOf s) :=
    List.countP_pos_iff.2 ⟨.discarded i s, hend, by simp [Note.isEndOf]⟩
  refine role_eq_none_iff.1 ((ends_once h s).2 hpos) ?_
  obtain ⟨a, ha, rfl⟩ := List.mem_map.1 (Call.has_iff.1 hcs)
  refine List.mem_map_of_mem (List.mem_append_left _ (List.mem_append_right _ ?_))
  exact List.mem_flatMap.2 ⟨c, Array.mem_toList_iff.2 (Array.mem_of_getElem? hc), ha⟩

end Endings

section Shut

lemma isOpen_of_course (ho : p.isOpen = false) (h : Course p path q) : q.isOpen = false := by
  induction h with
  | start => exact ho
  | act _ he ih =>
    by_contra hopen
    rw [isOpen_of_move (move_of_act he) (by simpa using hopen)] at ih
    cases ih
  | wait _ _ ih => exact ih

/-- A pool that is shut puts no session back. -/
lemma not_returned_of_course (ho : p.isOpen = false) (h : Course p path q) :
    .returned i s ∉ path.filterMap Happening.note? := by
  induction h with
  | start => nofun
  | @act path q r e h _ ih =>
    rw [List.filterMap_append, List.mem_append]
    rintro (hmem | hmem)
    · exact ih hmem
    · obtain ⟨_, hhap, hnote⟩ := List.mem_filterMap.1 hmem
      cases List.mem_singleton.1 hhap
      cases noted_of_note hnote with
      | returned _ _ _ _ _ _ _ _ _ hopen =>
        rw [isOpen_of_course ho h] at hopen
        cases hopen
      | session _ _ _ _ _ hnoted => cases hnoted
  | wait _ _ ih => exact ih

lemma late_of_move {n : Nat} (ho : p.isOpen = false) (h : Move p e q) (hn : n ≤ p.calls.size)
    (hold : ∀ (i : Nat) (c : Call), p.calls[i]? = some c → n ≤ i → c.IsLate) :
    n ≤ q.calls.size ∧ ∀ (i : Nat) (c : Call), q.calls[i]? = some c → n ≤ i → c.IsLate := by
  have hset {j : Nat} {b b' : Call} (hb : p.calls[j]? = some b)
      (hq : q.calls = p.calls.setIfInBounds j b') (hlate : b.IsLate → b'.IsLate) :
      n ≤ q.calls.size ∧ ∀ (i : Nat) (c : Call), q.calls[i]? = some c → n ≤ i → c.IsLate := by
    rw [hq, Array.size_setIfInBounds]
    exact ⟨hn, forall_setIfInBounds hold fun hj => hlate (hold j b hb hj)⟩
  cases h with
  | connected | close | shut | lock | allClosed | endNext | endOne | session => exact ⟨hn, hold⟩
  | arrive =>
    refine ⟨?_, forall_push hold fun _ => ⟨rfl, .inl rfl⟩⟩
    rw [arrive, Array.size_push]
    exact Nat.le_succ_of_le hn
  | enter _ _ _ _ hopen =>
    rw [ho] at hopen
    cases hopen
  | turnAway _ _ hb => exact hset hb rfl fun hlate => ⟨hlate.1, .inr (.inr rfl)⟩
  | abandonEarly _ _ hb => exact hset hb rfl fun hlate => ⟨hlate.1, .inr (.inl rfl)⟩
  | refuse _ _ hb hph | ask _ _ hb hph | giveUp _ _ hb hph | permit _ _ hb hph | miss _ _ hb hph
  | take _ _ _ _ hb hph | lend _ _ _ hb hph | deliver _ _ _ hb hph | expireWaiting _ _ hb hph
  | expireRunning _ _ hb hph | abandonWaiting _ _ hb hph | abandonRunning _ _ hb hph =>
    refine hset hb rfl fun hlate => ?_
    rcases hlate.2 with h | h | h <;> rw [hph] at h <;> cases h
  | begin _ _ _ _ _ hb ht | settle _ _ _ _ _ hb ht | lapse _ _ _ _ hb ht | uncount _ _ _ _ hb ht
  | putBack _ _ _ _ _ hb ht | reject _ _ _ _ _ hb ht | repay _ _ _ hb ht | drop _ _ _ _ _ hb ht
  | sealUp _ _ _ hb ht | drain _ _ _ _ hb ht =>
    refine hset hb rfl fun hlate => ?_
    rw [hlate.1] at ht
    cases ht

lemma late_of_course (ho : p.isOpen = false) (h : Course p path q) :
    p.calls.size ≤ q.calls.size ∧
      ∀ (i : Nat) (c : Call), q.calls[i]? = some c → p.calls.size ≤ i → c.IsLate := by
  induction h with
  | start =>
    refine ⟨Nat.le_refl _, fun i c hc hi => ?_⟩
    exact absurd (Array.getElem?_eq_some_iff.1 hc).1 (Nat.not_lt_of_le hi)
  | act h he ih => exact late_of_move (isOpen_of_course ho h) (move_of_act he) ih.1 ih.2
  | wait _ _ ih => exact ih

/-- In a pool that is shut, a call keeps its session until it has disconnected it. -/
lemma has_of_move (hp : Custody p) (ho : p.isOpen = false) (h : Move p e q) (hh : p.Has i s) :
    q.Has i s ∨ p.note? e = some (.discarded i s) := by
  obtain ⟨c, hc, hhas⟩ := hh
  have hset {j : Nat} {b b' : Call} (hb : p.calls[j]? = some b)
      (hq : q.calls = p.calls.setIfInBounds j b') (hkeep : b.Has s → b'.Has s) :
      q.Has i s ∨ p.note? e = some (.discarded i s) := by
    rcases call_after_set hc hb hq with ⟨rfl, hnext⟩ | ⟨-, hnext⟩
    · exact .inl ⟨b', hnext, hkeep hhas⟩
    · exact .inl ⟨c, hnext, hhas⟩
  cases h with
  | connected | close | shut | lock | allClosed | endNext | endOne | session =>
    exact .inl ⟨c, hc, hhas⟩
  | arrive => exact .inl ⟨c, call_after_arrive hc _ _, hhas⟩
  | enter _ _ hb hph | turnAway _ _ hb hph | refuse _ _ hb hph | ask _ _ hb hph | giveUp _ _ hb hph
  | permit _ _ hb hph | miss _ _ hb hph | take _ _ _ _ hb hph | deliver _ _ _ hb hph
  | expireWaiting _ _ hb hph | expireRunning _ _ hb hph | abandonWaiting _ _ hb hph
  | abandonEarly _ _ hb hph | abandonRunning _ _ hb hph =>
    exact hset hb rfl fun h => .inr (h.resolve_left (by simp [hph]))
  | lend j b t hb hph =>
    refine hset hb rfl fun h => ?_
    rcases h with h | h
    · rw [hph] at h
      cases h
      exact .inr rfl
    · rw [hp.early j b hb (by rw [hph]; rfl)] at h
      cases h
  | begin _ _ _ _ _ hb ht | settle _ _ _ _ _ hb ht | lapse _ _ _ _ hb ht | uncount _ _ _ _ hb ht
  | reject _ _ _ _ _ hb ht | drain _ _ _ _ hb ht =>
    refine hset hb rfl (Or.imp_right fun h => ?_)
    rw [ht] at h
    exact h
  | repay _ _ _ hb ht | sealUp _ _ _ hb ht =>
    refine hset hb rfl (Or.imp_right fun h => ?_)
    rw [ht] at h
    cases h
  | putBack _ _ _ _ _ _ _ _ _ hopen =>
    rw [ho] at hopen
    cases hopen
  | drop j b t x outcome hb ht =>
    by_cases hij : j = i
    · subst hij
      rw [hc] at hb
      cases hb
      rcases hhas with h | h
      · exact hset hc rfl fun _ => .inl h
      · rw [ht] at h
        cases h
        refine .inr ?_
        rw [note_task hc, taskNote?, ht]
    · refine .inl ⟨c, ?_, hhas⟩
      change (p.calls.setIfInBounds _ _)[i]? = _
      rw [Array.getElem?_setIfInBounds_ne hij, hc]

/-- In a pool that is shut, nobody gets a session. -/
lemma had_of_move (hi : p.idle = []) (h : Move p e q) (hh : q.Has i s) : p.Has i s := by
  obtain ⟨c, hc, hhas⟩ := hh
  have hset {j : Nat} {b b' : Call} (hb : p.calls[j]? = some b)
      (hq : q.calls = p.calls.setIfInBounds j b') (hkeep : b'.Has s → b.Has s) : p.Has i s := by
    rcases call_of_set hq hc with ⟨rfl, rfl⟩ | ⟨-, hc⟩
    · exact ⟨b, hb, hkeep hhas⟩
    · exact ⟨c, hc, hhas⟩
  cases h with
  | connected | close | shut | lock | allClosed | endNext | endOne | session =>
    exact ⟨c, hc, hhas⟩
  | arrive =>
    rw [arrive, Array.getElem?_push] at hc
    split at hc
    · cases hc
      rcases hhas with h | h <;> cases h
    · exact ⟨c, hc, hhas⟩
  | enter _ _ hb | turnAway _ _ hb | refuse _ _ hb | ask _ _ hb | giveUp _ _ hb | permit _ _ hb
  | miss _ _ hb | deliver _ _ _ hb | expireWaiting _ _ hb | expireRunning _ _ hb
  | abandonWaiting _ _ hb | abandonEarly _ _ hb | abandonRunning _ _ hb =>
    exact hset hb rfl fun h => .inr (h.resolve_left (by simp))
  | take _ _ _ _ _ _ hidle =>
    rw [hi] at hidle
    cases hidle
  | lend _ _ _ hb hph =>
    refine hset hb rfl fun h => ?_
    rcases h with h | h
    · cases h
    · cases h
      exact .inl hph
  | begin _ _ _ _ _ hb ht | settle _ _ _ _ _ hb ht | lapse _ _ _ _ hb ht | uncount _ _ _ _ hb ht
  | reject _ _ _ _ _ hb ht | drain _ _ _ _ hb ht =>
    refine hset hb rfl (Or.imp_right fun h => ?_)
    rw [ht]
    exact h
  | putBack _ _ _ _ _ hb | repay _ _ _ hb | sealUp _ _ _ hb =>
    exact hset hb rfl (Or.imp_right fun h => by cases h)
  | drop _ _ _ _ _ hb =>
    refine hset hb rfl (Or.imp_right fun h => ?_)
    dsimp only at h
    split at h <;> cases h

/-- In a pool that is shut, no closer gets a session. -/
lemma closers_of_move (hi : p.idle = []) (h : Move p e q)
    (hold : ∀ f ∈ p.closers, f.sessions = []) : ∀ f ∈ q.closers, f.sessions = [] := by
  have hset {k : Nat} {f' : CloserPhase} (hq : q.closers = p.closers.set k f')
      (hf' : f'.sessions = []) : ∀ f ∈ q.closers, f.sessions = [] := by
    intro f hf
    rw [hq] at hf
    rcases List.mem_or_eq_of_mem_set hf with hf | rfl
    · exact hold f hf
    · exact hf'
  cases h with
  | close =>
    intro f hf
    rcases List.mem_append.1 hf with hf | hf
    · exact hold f hf
    · cases List.mem_singleton.1 hf
      rfl
  | shut => exact hset rfl hi
  | lock _ _ hk =>
    have hnone := hold _ (List.mem_of_getElem? hk)
    exact hset rfl hnone
  | allClosed => exact hset rfl rfl
  | endNext _ _ _ _ hk | endOne _ _ _ _ hk => cases hold _ (List.mem_of_getElem? hk)
  | _ => exact hold

/-- Once a pool is shut, sessions only ever leave the calls and the closers that have them. -/
lemma parted_of_course (hp : History config start log p) (ho : p.isOpen = false)
    (h : Course p path q) :
    (∀ i s, p.Has i s → q.Has i s ∨ .discarded i s ∈ path.filterMap Happening.note?) ∧
      (∀ i s, q.Has i s → p.Has i s) ∧
      ((∀ f ∈ p.closers, f.sessions = []) → ∀ f ∈ q.closers, f.sessions = []) := by
  induction h with
  | start => exact ⟨fun i s hh => .inl hh, fun i s hh => hh, fun hk => hk⟩
  | @act path q r e h he ih =>
    have hq := history_of_course hp h
    have hshut := isOpen_of_course ho h
    have hidle := (shutting_of_history hq).idle hshut
    have hmove := move_of_act he
    obtain ⟨hhas, hhad, hclosers⟩ := ih
    refine ⟨fun i s hh => ?_, fun i s hh => hhad i s (had_of_move hidle hmove hh),
      fun hk => closers_of_move hidle hmove (hclosers hk)⟩
    rw [List.filterMap_append, List.mem_append]
    rcases hhas i s hh with hh | hnote
    · rcases has_of_move (custody_of_history hq) hshut hmove hh with hh | hnote
      · exact .inl hh
      · exact .inr (.inr (List.mem_filterMap.2 ⟨_, List.mem_singleton_self _, hnote⟩))
    · exact .inr (.inl hnote)
  | wait _ _ ih => exact ih

end Shut

section Empty

/-- A session that serves a request does so for the task of a call. -/
lemma has_of_serving (hp : Custody p) {x : Session} (hx : p.sessions[s]? = some x)
    (hs : x.activity.stage = .serving) :
    ∃ (i : Nat) (c : Call), p.calls[i]? = some c ∧ c.task = .submitting s := by
  have hmem := (role_eq_some_iff hp.nodup).1 (Session.role_of_serving (hp.admits s x hx) hs)
  rw [holdings, List.mem_append, List.mem_append] at hmem
  rcases hmem with (hmem | hmem) | hmem
  · obtain ⟨_, -, hne⟩ := List.mem_map.1 hmem
    cases hne
  · obtain ⟨c, hc, hmem⟩ := List.mem_flatMap.1 hmem
    obtain ⟨i, hi⟩ := Array.mem_iff_getElem?.1 (Array.mem_toList_iff.1 hc)
    refine ⟨i, c, hi, ?_⟩
    rcases List.mem_append.1 hmem with hmem | hmem
    · cases hphase : c.phase <;> rw [hphase] at hmem <;> simp [CallPhase.holdings] at hmem
    · cases htask : c.task <;> rw [htask] at hmem <;> simp [TaskPhase.holdings] at hmem
      rw [hmem]
  · obtain ⟨f, -, hmem⟩ := List.mem_flatMap.1 hmem
    cases f <;> simp [CloserPhase.holdings] at hmem

lemma holdings_eq_nil (hi : p.idle = []) (hc : ∀ i s, ¬p.Has i s)
    (hk : ∀ f ∈ p.closers, f.sessions = []) : p.holdings = [] := by
  rw [holdings, hi, List.append_eq_nil_iff, List.append_eq_nil_iff, List.flatMap_eq_nil_iff,
    List.flatMap_eq_nil_iff]
  refine ⟨⟨rfl, fun c hcall => ?_⟩, fun f hf => ?_⟩
  · obtain ⟨i, hcall⟩ := Array.mem_iff_getElem?.1 (Array.mem_toList_iff.1 hcall)
    rw [List.eq_nil_iff_forall_not_mem]
    intro a ha
    exact hc i a.1 ⟨c, hcall, Call.has_iff.2 (List.mem_map_of_mem ha)⟩
  · have hnone := hk f hf
    rwa [CloserPhase.sessions_eq, List.map_eq_nil_iff] at hnone

end Empty

/-- What a pool keeps to after a close has come back. The pool was at `p` then, with `past` behind
it, and has come to `q` by `path`. -/
structure ClosedDown (config : ClientConfig) (past path : List Happening) (p q : Pool) :
    Prop where
  idle : q.isOpen = false ∧ q.idle = []
  kept : ∀ i s, .returned i s ∉ path.filterMap Happening.note?
  /-- Who comes later never has a session. -/
  late : ∀ (i : Nat) (c : Call), q.calls[i]? = some c → p.calls.size ≤ i → c.IsLate
  refused : ∀ query timeout,
    Client.query ⟨q⟩ query timeout = .error (.poolExhausted "Client is closed")
  /-- Every request that is still served had its session by then. -/
  served : ∀ (s : Nat) (x : Session), q.sessions[s]? = some x → x.activity.stage = .serving →
    ∃ i, p.Has i s ∧ q.Has i s
  undisturbed : Undisturbed q
  parted : ∀ i s, p.Has i s → q.Has i s ∨ .discarded i s ∈ path.filterMap Happening.note?
  once : ∀ s, ((past ++ path).filterMap Happening.note?).countP (Note.isEndOf s) ≤ 1
  live : q.live + ((past ++ path).filterMap Happening.note?).countP Note.isDiscarded +
    ((past ++ path).filterMap Happening.note?).countP Note.isClosed = config.poolSize
  channels : ∀ s < config.poolSize,
    (past ++ path).countP (Happening.closesChannel s) ≤
        (past ++ path).countP (Happening.opensChannel s) ∧
      (past ++ path).countP (Happening.opensChannel s) ≤ 1
  /-- The last request has parted with its session, and no other close is under way. -/
  ended : (∀ f ∈ p.closers, f.sessions = []) →
    (∀ i s, p.Has i s → .discarded i s ∈ path.filterMap Happening.note?) →
    q.live = 0 ∧ ∀ s < config.poolSize, q.At s .gone ∧
      (past ++ path).countP (Happening.closesChannel s) =
        (past ++ path).countP (Happening.opensChannel s)

/-- The channel of a session that is over has been closed as often as it was opened. -/
lemma closed_as_opened (h : Course (Pool.opening config start) path q)
    (hs : s < config.poolSize) :
    path.countP (Happening.closesChannel s) ≤ path.countP (Happening.opensChannel s) ∧
      path.countP (Happening.opensChannel s) ≤ 1 ∧
      (q.At s .gone → path.countP (Happening.closesChannel s) =
        path.countP (Happening.opensChannel s)) := by
  have hist := history_of_opening h
  have hlt : s < q.sessions.size := by
    rwa [(custody_of_history hist).size, config_of_history hist]
  have hx : q.sessions[s]? = some q.sessions[s] := Array.getElem?_eq_getElem hlt
  have hchan := channelled_of_course h s _ hx
  have hbalance := hchan.balance
  refine ⟨by omega, hchan.once, ?_⟩
  rintro ⟨-, -, -, x, hx', hover⟩
  rw [hx] at hx'
  cases hx'
  rw [hover.2.1] at hbalance
  exact hbalance

/-- Once a close has come back, whatever else was going on at that moment and whatever comes after:
the pool stays shut and idle sessions are there no more, no session is put back, and no later call
has one. The requests in progress go on as in any pool, to their own outcomes, and then disconnect
their sessions. No session ends twice, each takes one off the live ones, and when the last request
has parted with its session none is live and every channel that was opened has been closed once. -/
theorem closed_down (hp : Course (Pool.opening config start) past p) (hdone : .done ∈ p.closers)
    (hq : Course p path q) : ClosedDown config past path p q := by
  have hist := history_of_opening hp
  have hall := hp.trans hq
  have hist' := history_of_opening hall
  have hacc := accounts_of_history hist'
  have hconfig := config_of_history hist'
  have hshut : p.isOpen = false := by
    by_contra hopen
    cases (shutting_of_history hist).arrived.1 (by simpa using hopen) _ hdone
  have hshut' := isOpen_of_course hshut hq
  have hidle := (shutting_of_history hist').idle hshut'
  obtain ⟨hhas, hhad, hclosers⟩ := parted_of_course hist hshut hq
  refine
    { idle := ⟨hshut', hidle⟩
      kept := fun i s => not_returned_of_course hshut hq
      late := (late_of_course hshut hq).2
      refused := fun query timeout => ?_
      served := fun s x hx hs => ?_
      undisturbed := undisturbed_of_history hist'
      parted := hhas
      once := fun s => (ends_once hist' s).1
      live := ?_
      channels := fun s hs => ⟨(closed_as_opened hall hs).1, (closed_as_opened hall hs).2.1⟩
      ended := fun hk hended => ?_ }
  · rw [Client.query, if_neg]
    rw [Client.isOpen, hshut']
    nofun
  · obtain ⟨i, c, hc, ht⟩ := has_of_serving (custody_of_history hist') hx hs
    have hh : q.Has i s := ⟨c, hc, .inr (by rw [ht]; rfl)⟩
    exact ⟨i, hhad i s hh, hh⟩
  · rw [← hconfig]
    exact hacc.live
  · -- whoever had a session has given it up for good, so it is with nobody
    have hgone : ∀ i s, ¬q.Has i s := by
      intro i s hh
      refine not_has_of_discarded hist' ?_ hh
      rw [List.filterMap_append]
      exact List.mem_append_right _ (hended i s (hhad i s hh))
    have hnil := holdings_eq_nil hidle hgone (hclosers hk)
    refine ⟨by rw [(books_of_history hist').live, hnil, List.length_nil], fun s hs => ?_⟩
    have hat : q.At s .gone := by
      rw [at_gone_iff (custody_of_history hist') (by rwa [hconfig]), role_eq_none_iff, hnil]
      exact List.not_mem_nil
    exact ⟨hat, (closed_as_opened hall hs).2.2 hat⟩

/-- Two sessions, without pings. -/
def twoSessions : ClientConfig := { poolSize := 2, pingInterval := .ofMillis 0 }

/-- The first session serves a request while the pool is closed. -/
def shutRun : List Event :=
  [.session 0 (.opened true), .session 1 (.opened true), .connected,
    .arrive "g.V()" (.ofMillis 50), .call 0, .call 0, .call 0, .call 0, .call 0,
    .begin 0 Uuid.nil, .session 0 .claim, .session 0 (.sent none), .close, .closer 0, .closer 0,
    .closer 0, .session 1 .claim, .session 1 .closed, .closer 0, .closer 0]

/-- Another call comes too late, and the request is answered. -/
def afterShutRun : List Event :=
  [.arrive "g.E()" (.ofMillis 50), .call 1,
    .session 0 (.received (.ok (some (.text "\x7b\"status\":\x7b\"code\":204\x7d\x7d")))), .task 0,
    .task 0, .task 0, .session 0 .claim, .session 0 .closed, .task 0, .task 0, .call 0]

theorem closed_down_after_answer :
    ∃ p q, (Pool.opening twoSessions (.ofMillis 0)).run? shutRun = some p ∧
      p.run? afterShutRun = some q ∧ .done ∈ p.closers ∧
      ClosedDown twoSessions ((Pool.opening twoSessions (.ofMillis 0)).happenings shutRun)
        (p.happenings afterShutRun) p q ∧
      q.live = 0 ∧ (p.happenings afterShutRun).countP (Happening.closesChannel 0) = 1 := by
  have hrun : ((Pool.opening twoSessions (.ofMillis 0)).run? shutRun).any (fun p =>
      p.closers = [.done] ∧ p.calls.toList.map Call.holdings = [[(0, .serving)]] ∧
        .discarded 0 0 ∈ (p.happenings afterShutRun).filterMap Happening.note? ∧
        (p.happenings afterShutRun).countP (Happening.closesChannel 0) = 1 ∧
        (p.run? afterShutRun).isSome) = true := by
    decide +kernel
  obtain ⟨p, hp, hstate⟩ := (Option.any_eq_true _ _).1 hrun
  obtain ⟨hclosers, hcalls, hend, hcloses, hnext⟩ := of_decide_eq_true hstate
  obtain ⟨q, hq⟩ := Option.isSome_iff_exists.1 hnext
  have hdone : .done ∈ p.closers := by
    rw [hclosers]
    exact List.mem_singleton_self _
  have hdown := closed_down (course_of_run hp) hdone (course_of_run hq)
  refine ⟨p, q, hp, hq, hdone, hdown, (hdown.ended ?_ ?_).1, hcloses⟩
  · rw [hclosers]
    simp [CloserPhase.sessions]
  · rintro i s ⟨c, hc, hcs⟩
    have hmap : (p.calls.toList.map Call.holdings)[i]? = some c.holdings := by
      rw [List.getElem?_map, Array.getElem?_toList, hc]
      rfl
    rw [hcalls] at hmap
    cases i with
    | zero =>
      rw [List.getElem?_cons_zero, Option.some.injEq] at hmap
      obtain rfl : s = 0 := by simpa [← hmap] using Call.has_iff.1 hcs
      exact hend
    | succ i => cases hmap

end Pool

end GraphClient
