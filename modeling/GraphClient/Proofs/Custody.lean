import GraphClient.Proofs.PoolMoves
import Mathlib.Data.List.Nodup

/-!
# Custody of sessions

Who holds which session, and what for. A session is spare, serves a request, has served it, or is
being disconnected; a session that nobody holds is over. Every move hands at most one session from
one role to the next, so no session is ever held twice and none gets lost.
-/

namespace GraphClient

/-- What a session is held for. -/
inductive Role where
  /-- It is idle, or was taken and has not begun a request. -/
  | spare
  | serving
  /-- Its request is over, and it has not been placed. -/
  | served
  | ending
  deriving DecidableEq, Repr

/-- How a session is while it is held in a role, or once nobody holds it. -/
def Role.Admits : Option Role → Session → Prop
  | some spare, x => x.activity.stage = .opening ∨ x.activity = .resting
  | some serving, x => x.activity.stage = .serving
  | some served, x => x.activity = .resting
  | some ending, x => x.IsEnding
  | none, x => x.IsOver

/-- The sessions that a caller holds. -/
def CallPhase.holdings : CallPhase → List (Nat × Role)
  | holding s => [(s, .spare)]
  | _ => []

/-- The caller has no task yet. -/
def CallPhase.isEarly : CallPhase → Bool
  | arrived | admitted | waiting | permitted | holding _ => true
  | running | returned _ | abandoned => false

/-- The sessions that a task holds. -/
def TaskPhase.holdings : TaskPhase → List (Nat × Role)
  | spawned s => [(s, .spare)]
  | submitting s => [(s, .serving)]
  | expiring s => [(s, .ending)]
  | releasing s _ | placing s _ => [(s, .served)]
  | discarding s _ => [(s, .ending)]
  | none | permitting _ | sealing _ | finished _ => []

/-- The sessions that a call holds. -/
def Call.holdings (c : Call) : List (Nat × Role) := c.phase.holdings ++ c.task.holdings

/-- The sessions that a closer holds. -/
def CloserPhase.holdings : CloserPhase → List (Nat × Role)
  | drained sessions | clearing sessions => sessions.map (·, .spare)
  | disconnecting s rest => (s, .ending) :: rest.map (·, .spare)
  | arrived | done => []

namespace Pool

/-- All sessions that are held, each with its role. -/
def holdings (p : Pool) : List (Nat × Role) :=
  p.idle.map (·, .spare) ++ p.calls.toList.flatMap Call.holdings ++
    p.closers.flatMap CloserPhase.holdings

/-- The role of a session, if somebody holds it. -/
def role (p : Pool) (s : Nat) : Option Role := (p.holdings.find? (·.1 = s)).map (·.2)

/-- Every session is held at most once and is as its role demands. -/
structure Custody (p : Pool) : Prop where
  size : p.sessions.size = p.config.poolSize
  nodup : (p.holdings.map (·.1)).Nodup
  bound : ∀ h ∈ p.holdings, h.1 < p.config.poolSize
  admits : ∀ (s : Nat) (x : Session), p.sessions[s]? = some x → Role.Admits (p.role s) x
  early : ∀ (i : Nat) (c : Call), p.calls[i]? = some c → c.phase.isEarly = true → c.task = .none

/-- How the user of a session takes it from one role to the next. -/
inductive Turn : Option Role → Session → Option Role → Session → Prop
  | begin (x : Session) (id : Uuid) (script : String) (hx : x.activity = .resting) :
      Turn (some .spare) x (some .serving)
        { x with activity := .claimingRequest id script }
  | settle (x : Session) (outcome : Outcome) (hx : x.activity = .finished outcome) :
      Turn (some .serving) x (some .served) { x with activity := .resting }
  | putBack (x : Session) (hx : x.isConnected = true) :
      Turn (some .served) x (some .spare) x
  | drain (x : Session) (hx : x.activity.isRequest = true) :
      Turn (some .serving) x (some .ending)
        { x with stopping := true, activity := .claimingEnd }
  | finish (r : Role) (x : Session) (hx : x.activity = .resting) :
      Turn (some r) x (some .ending) { x with stopping := true, activity := .claimingEnd }
  | lapse (x : Session) (hx : x.activity = .ended) :
      Turn (some .ending) x (some .served) { x with activity := .resting }
  | leave (x : Session) (hx : x.activity = .ended) :
      Turn (some .ending) x none { x with activity := .resting }

lemma Turn.admits {r r' : Option Role} {x y : Session} (h : Turn r x r' y)
    (hr : Role.Admits r x) : Role.Admits r' y := by
  cases h with
  | begin | settle | lapse => rfl
  | putBack => exact .inr hr
  | drain | finish => exact .inl rfl
  | leave _ hx =>
    rcases hr with ha | ⟨ha, -⟩ | ⟨-, hc, hd⟩
    · rw [hx] at ha
      cases ha
    · rw [hx] at ha
      cases ha
    · exact ⟨rfl, hc, hd⟩

lemma admits_of_proceeds {config : ClientConfig} {now : Instant} {r : Option Role}
    {x y : Session} {e : Session.Event} (h : x.Proceeds config now e y)
    (hr : Role.Admits r x) : Role.Admits r y := by
  match r, hr with
  | some .spare, .inl ho => exact h.of_opening ho
  | some .spare, .inr hx =>
    obtain ⟨k, rfl⟩ := h.of_resting hx
    exact .inr hx
  | some .serving, hx => exact h.of_serving hx
  | some .served, hx =>
    obtain ⟨k, rfl⟩ := h.of_resting hx
    exact hx
  | some .ending, hx => exact h.of_ending hx
  | none, hx =>
    obtain ⟨k, rfl⟩ := h.of_resting hx.1
    exact hx

variable {p q : Pool}

lemma role_eq_none_iff {s : Nat} : p.role s = none ↔ s ∉ p.holdings.map (·.1) := by
  unfold role
  rw [Option.map_eq_none_iff, List.find?_eq_none]
  constructor
  · intro h hs
    obtain ⟨a, ha, rfl⟩ := List.mem_map.1 hs
    simpa using h a ha
  · intro h a ha hs
    exact h (List.mem_map.2 ⟨a, ha, by simpa using hs⟩)

lemma role_eq_some_iff (hp : (p.holdings.map (·.1)).Nodup) {s : Nat} {r : Role} :
    p.role s = some r ↔ (s, r) ∈ p.holdings := by
  constructor
  · intro h
    obtain ⟨a, ha, rfl⟩ := Option.map_eq_some_iff.1 h
    have hs : a.1 = s := by simpa using List.find?_some ha
    rw [← hs]
    exact List.mem_of_find?_eq_some ha
  · intro h
    cases hr : p.role s with
    | none => exact absurd (List.mem_map_of_mem h) (role_eq_none_iff.1 hr)
    | some r' =>
      obtain ⟨a, ha, rfl⟩ := Option.map_eq_some_iff.1 hr
      have hs : a.1 = s := by simpa using List.find?_some ha
      have he := List.inj_on_of_nodup_map hp (List.mem_of_find?_eq_some ha) h hs
      rw [he]

/-- A session with its role, as a list of at most one pair. -/
def single (s : Nat) (r : Option Role) : List (Nat × Role) := (r.map (s, ·)).toList

/-- How a move changes who holds the sessions: not at all, or for one session. A session that leaves
its last holder leaves the count of live sessions too. -/
inductive Shift (p q : Pool) : Prop
  | keep (hh : q.holdings.Perm p.holdings) (hs : q.sessions = p.sessions) (hl : q.live = p.live)
  | turn (s : Nat) (x y : Session) (r r' : Option Role) (hx : p.sessions[s]? = some x)
      (hs : q.sessions = p.sessions.setIfInBounds s y) (hr : p.role s = r)
      (hh : (q.holdings ++ single s r).Perm (p.holdings ++ single s r'))
      (hl : q.live = p.live + (single s r').length - (single s r).length)
      (ht : Turn r x r' y)

lemma perm_flatMap_set {α β : Type} (f : α → List β) {l : List α} {i : Nat} {a : α} (b : α)
    (h : l[i]? = some a) : ((l.set i b).flatMap f ++ f a).Perm (l.flatMap f ++ f b) := by
  induction l generalizing i with
  | nil => simp at h
  | cons c l ih =>
    cases i with
    | zero =>
      rw [List.getElem?_cons_zero, Option.some.injEq] at h
      subst h
      simp only [List.set_cons_zero, List.flatMap_cons, List.append_assoc]
      refine List.perm_append_comm.trans ?_
      rw [← List.append_assoc]
      exact List.perm_append_comm.append_right (f b)
    | succ i =>
      rw [List.getElem?_cons_succ] at h
      simp only [List.set_cons_succ, List.flatMap_cons, List.append_assoc]
      exact (ih h).append_left (f c)

/-- A call that hands on what it holds to the idle sessions or takes it from them. -/
lemma holdings_perm_of_call {i : Nat} {c c' : Call} (hc : p.calls[i]? = some c)
    (hq : q.calls = p.calls.setIfInBounds i c') (hk : q.closers = p.closers)
    (u v : List (Nat × Role))
    (hh : (q.idle.map (·, Role.spare) ++ c'.holdings ++ u).Perm
      (p.idle.map (·, Role.spare) ++ c.holdings ++ v)) :
    (q.holdings ++ u).Perm (p.holdings ++ v) := by
  rw [List.perm_iff_count]
  intro a
  have hc' : p.calls.toList[i]? = some c := by simpa using hc
  have hcalls := (perm_flatMap_set Call.holdings c' hc').count_eq a
  have hcount := hh.count_eq a
  simp only [holdings, hq, hk, Array.toList_setIfInBounds, List.count_append] at hcalls hcount ⊢
  omega

lemma holdings_perm_of_closer {k : Nat} {f f' : CloserPhase} (hf : p.closers[k]? = some f)
    (hq : q.closers = p.closers.set k f') (hc : q.calls = p.calls) (u v : List (Nat × Role))
    (hh : (q.idle.map (·, Role.spare) ++ f'.holdings ++ u).Perm
      (p.idle.map (·, Role.spare) ++ f.holdings ++ v)) :
    (q.holdings ++ u).Perm (p.holdings ++ v) := by
  rw [List.perm_iff_count]
  intro a
  have hclosers := (perm_flatMap_set CloserPhase.holdings f' hf).count_eq a
  have hcount := hh.count_eq a
  simp only [holdings, hq, hc, List.count_append] at hclosers hcount ⊢
  omega

lemma shift_keep_of_call {i : Nat} {c c' : Call} (hc : p.calls[i]? = some c)
    (hq : q.calls = p.calls.setIfInBounds i c') (hk : q.closers = p.closers)
    (hs : q.sessions = p.sessions) (hl : q.live = p.live)
    (hh : (q.idle.map (·, Role.spare) ++ c'.holdings).Perm
      (p.idle.map (·, Role.spare) ++ c.holdings)) : Shift p q := by
  refine .keep ?_ hs hl
  have h := holdings_perm_of_call hc hq hk [] [] (by simpa using hh)
  simpa using h

lemma shift_of_phase {i : Nat} {c : Call} {phase : CallPhase} (hc : p.calls[i]? = some c)
    (hq : q.calls = p.calls.setIfInBounds i { c with phase }) (hk : q.closers = p.closers)
    (hs : q.sessions = p.sessions) (hl : q.live = p.live) (hi : q.idle = p.idle)
    (hp : c.phase.holdings = []) (hh : phase.holdings = []) : Shift p q := by
  apply shift_keep_of_call hc hq hk hs hl
  rw [hi, Call.holdings, Call.holdings, hp, hh]

lemma shift_of_task {i : Nat} {c : Call} {task : TaskPhase} (hc : p.calls[i]? = some c)
    (hq : q.calls = p.calls.setIfInBounds i { c with task }) (hk : q.closers = p.closers)
    (hs : q.sessions = p.sessions) (hl : q.live = p.live) (hi : q.idle = p.idle)
    (hh : task.holdings = c.task.holdings) : Shift p q := by
  apply shift_keep_of_call hc hq hk hs hl
  rw [hi, Call.holdings, Call.holdings, hh]

lemma role_of_task (hp : Custody p) {i s : Nat} {r : Role} {c : Call}
    (hc : p.calls[i]? = some c) (ht : (s, r) ∈ c.task.holdings) : p.role s = some r := by
  rw [role_eq_some_iff hp.nodup]
  have hmem : c ∈ p.calls.toList := Array.mem_toList_iff.2 (Array.mem_of_getElem? hc)
  refine List.mem_append_left _ (List.mem_append_right _ ?_)
  exact List.mem_flatMap.2 ⟨c, hmem, List.mem_append_right _ ht⟩

lemma role_of_closer (hp : Custody p) {k s : Nat} {r : Role} {f : CloserPhase}
    (hf : p.closers[k]? = some f) (hs : (s, r) ∈ f.holdings) : p.role s = some r := by
  rw [role_eq_some_iff hp.nodup]
  exact List.mem_append_right _ (List.mem_flatMap.2 ⟨f, List.mem_of_getElem? hf, hs⟩)

lemma shift_turn_of_task (hp : Custody p) {i s : Nat} {r : Role} {r' : Option Role}
    {c : Call} {t : TaskPhase} {x y : Session} (hc : p.calls[i]? = some c)
    (hq : q.calls = p.calls.setIfInBounds i { c with task := t }) (hk : q.closers = p.closers)
    (hx : p.sessions[s]? = some x) (hs : q.sessions = p.sessions.setIfInBounds s y)
    (hl : q.live = p.live + (single s r').length - 1) (hr : c.task.holdings = [(s, r)])
    (hh : (q.idle.map (·, Role.spare) ++ t.holdings).Perm
      (p.idle.map (·, Role.spare) ++ single s r'))
    (ht : Turn (some r) x r' y) : Shift p q := by
  have hrole : p.role s = some r := role_of_task hp hc (by simp [hr])
  refine .turn s x y (some r) r' hx hs hrole ?_ hl ht
  apply holdings_perm_of_call hc hq hk _ _
  rw [List.perm_iff_count]
  intro a
  have hcount := hh.count_eq a
  simp only [Call.holdings, hr, single, List.count_append, Option.map_some,
    Option.toList_some] at hcount ⊢
  omega

lemma shift_of_closer {k : Nat} {f f' : CloserPhase} (hf : p.closers[k]? = some f)
    (hq : q.closers = p.closers.set k f') (hc : q.calls = p.calls)
    (hs : q.sessions = p.sessions) (hl : q.live = p.live)
    (hh : (q.idle.map (·, Role.spare) ++ f'.holdings).Perm
      (p.idle.map (·, Role.spare) ++ f.holdings)) : Shift p q := by
  refine .keep ?_ hs hl
  have h := holdings_perm_of_closer hf hq hc [] [] (by simpa using hh)
  simpa using h

lemma shift_turn_of_closer (hp : Custody p) {k s : Nat} {r : Role} {r' : Option Role}
    {f f' : CloserPhase} {x y : Session} {rest : List (Nat × Role)}
    (hf : p.closers[k]? = some f) (hq : q.closers = p.closers.set k f')
    (hc : q.calls = p.calls) (hi : q.idle = p.idle) (hx : p.sessions[s]? = some x)
    (hs : q.sessions = p.sessions.setIfInBounds s y)
    (hl : q.live = p.live + (single s r').length - 1) (hr : f.holdings = (s, r) :: rest)
    (hr' : f'.holdings = single s r' ++ rest) (ht : Turn (some r) x r' y) :
    Shift p q := by
  have hrole : p.role s = some r := role_of_closer hp hf (by rw [hr]; exact List.mem_cons_self)
  refine .turn s x y (some r) r' hx hs hrole ?_ hl ht
  apply holdings_perm_of_closer hf hq hc _ _
  rw [List.perm_iff_count]
  intro a
  rw [hi, hr, hr']
  simp only [single, List.count_append, List.count_cons, Option.map_some, Option.toList_some,
    List.count_nil]
  omega

lemma setIfInBounds_self {α : Type} {xs : Array α} {i : Nat} {x : α} (h : xs[i]? = some x) :
    xs.setIfInBounds i x = xs := by
  apply Array.ext_getElem?
  intro j
  by_cases hij : i = j
  · subst hij
    rw [Array.getElem?_setIfInBounds_self_of_lt (Array.getElem?_eq_some_iff.1 h).1, h]
  · rw [Array.getElem?_setIfInBounds_ne hij]

/-- Every move of a pool in custody shifts at most one session, unless a session goes on by
itself. -/
theorem shift_of_move {e : Event} (hp : Custody p) (h : Move p e q)
    (he : ∀ s event, e ≠ .session s event) : Shift p q := by
  cases h with
  | connected => exact .keep (List.Perm.refl _) rfl rfl
  | arrive =>
    refine .keep ?_ rfl rfl
    simp [holdings, arrive, Call.holdings, CallPhase.holdings, TaskPhase.holdings]
  | enter _ _ hc hph | turnAway _ _ hc hph | refuse _ _ hc hph | ask _ _ hc hph
  | giveUp _ _ hc hph | permit _ _ hc hph | miss _ _ hc hph | deliver _ _ _ hc hph
  | expireWaiting _ _ hc hph | expireRunning _ _ hc hph | abandonWaiting _ _ hc hph
  | abandonEarly _ _ hc hph | abandonRunning _ _ hc hph =>
    exact shift_of_phase hc rfl rfl rfl rfl rfl (by rw [hph]; rfl) rfl
  | take i c s rest hc hph hi =>
    refine shift_keep_of_call hc rfl rfl rfl rfl ?_
    rw [Call.holdings, Call.holdings, hph, hi]
    exact List.perm_middle
  | lend i c s hc hph =>
    have ht : c.task = .none := hp.early i c hc (by rw [hph]; rfl)
    refine shift_keep_of_call hc rfl rfl rfl rfl ?_
    rw [Call.holdings, Call.holdings, hph, ht]
    exact List.Perm.refl _
  | begin i id c s x hc ht hx hr =>
    exact shift_turn_of_task hp hc rfl rfl hx rfl rfl (by rw [ht]; rfl) (List.Perm.refl _)
      (.begin x id c.script hr)
  | settle i c s x outcome hc ht hx hf =>
    exact shift_turn_of_task hp hc rfl rfl hx rfl rfl (by rw [ht]; rfl) (List.Perm.refl _)
      (.settle x outcome hf)
  | lapse i c s x hc ht hx hf =>
    exact shift_turn_of_task hp hc rfl rfl hx rfl rfl (by rw [ht]; rfl) (List.Perm.refl _)
      (.lapse x hf)
  | uncount i c s outcome hc ht =>
    exact shift_of_task hc rfl rfl rfl rfl rfl (by rw [ht]; rfl)
  | putBack i c s x outcome hc ht hx hf =>
    refine shift_turn_of_task hp hc rfl rfl hx (setIfInBounds_self hx).symm rfl
      (by rw [ht]; rfl) ?_ (.putBack x hf)
    rw [setCall_idle, List.map_append, TaskPhase.holdings, List.append_nil]
    exact List.Perm.refl _
  | reject i c s x outcome hc ht hx hf hr =>
    exact shift_turn_of_task hp hc rfl rfl hx rfl rfl (by rw [ht]; rfl) (List.Perm.refl _)
      (.finish .served x hr)
  | repay i c outcome hc ht =>
    exact shift_of_task hc rfl rfl rfl rfl rfl (by rw [ht]; rfl)
  | drop i c s x outcome hc ht hx hf =>
    refine shift_turn_of_task hp hc rfl rfl hx rfl rfl (by rw [ht]; rfl) ?_ (.leave x hf)
    split <;> exact List.Perm.refl _
  | sealUp i c outcome hc ht =>
    exact shift_of_task hc rfl rfl rfl rfl rfl (by rw [ht]; rfl)
  | drain i c s x hc ht hd hx hr =>
    exact shift_turn_of_task hp hc rfl rfl hx rfl rfl (by rw [ht]; rfl) (List.Perm.refl _)
      (.drain x hr)
  | close =>
    refine .keep ?_ rfl rfl
    rw [holdings, holdings, List.flatMap_append]
    simp [CloserPhase.holdings]
  | shut k hk =>
    refine shift_of_closer hk rfl rfl rfl rfl ?_
    simp [CloserPhase.holdings]
  | lock k sessions hk => exact shift_of_closer hk rfl rfl rfl rfl (List.Perm.refl _)
  | allClosed k hk => exact shift_of_closer hk rfl rfl rfl rfl (List.Perm.refl _)
  | endNext k s rest x hk hx hr =>
    exact shift_turn_of_closer hp hk rfl rfl rfl hx rfl rfl rfl rfl (.finish .spare x hr)
  | endOne k s rest x hk hx hf =>
    exact shift_turn_of_closer hp hk rfl rfl rfl hx rfl rfl rfl rfl (.leave x hf)
  | session s e => exact absurd rfl (he s e)

/-- A session goes on by itself, or its user shifts it. -/
theorem proceeds_or_shift {e : Event} (hp : Custody p) (h : Move p e q) :
    (∃ s event x y, e = .session s event ∧ p.sessions[s]? = some x ∧
      x.Proceeds p.config p.now event y ∧ q = p.setSession s y) ∨
    ((∀ s event, e ≠ .session s event) ∧ Shift p q) := by
  by_cases he : ∀ s event, e ≠ .session s event
  · exact .inr ⟨he, shift_of_move hp h he⟩
  · push Not at he
    obtain ⟨s, event, rfl⟩ := he
    cases h with
    | session _ _ x y hx hxy => exact .inl ⟨s, event, x, y, rfl, hx, hxy, rfl⟩

lemma count_single (s t : Nat) (r : Option Role) :
    ((single s r).map (·.1)).count t = if s = t ∧ r.isSome then 1 else 0 := by
  cases r with
  | none => simp [single]
  | some r => by_cases h : s = t <;> simp [single, h]

lemma count_holder (hp : (p.holdings.map (·.1)).Nodup) (s : Nat) :
    (p.holdings.map (·.1)).count s = if (p.role s).isSome then 1 else 0 := by
  cases hr : p.role s with
  | none => simpa using List.count_eq_zero.2 (role_eq_none_iff.1 hr)
  | some r =>
    have hmem := List.mem_map_of_mem (f := (·.1)) ((role_eq_some_iff hp).1 hr)
    simpa using List.count_eq_one_of_mem hp hmem

/-- A shift of one session leaves no session held twice. -/
lemma nodup_of_turn (hp : (p.holdings.map (·.1)).Nodup) {s : Nat} {r r' : Option Role}
    (hr : p.role s = r) (hh : (q.holdings ++ single s r).Perm (p.holdings ++ single s r')) :
    (q.holdings.map (·.1)).Nodup := by
  rw [List.nodup_iff_count_le_one]
  intro t
  have hcount := (hh.map (·.1)).count_eq t
  simp only [List.map_append, List.count_append, count_single, count_holder hp] at hcount
  by_cases hst : s = t
  · subst hst
    rw [hr] at hcount
    simp only [true_and] at hcount
    split at hcount <;> split at hcount <;> omega
  · simp only [hst, false_and, if_false] at hcount
    split at hcount <;> omega

lemma role_of_turn (hp : (p.holdings.map (·.1)).Nodup) {s : Nat} {r r' : Option Role}
    (hr : p.role s = r) (hh : (q.holdings ++ single s r).Perm (p.holdings ++ single s r')) :
    q.role = Function.update p.role s r' := by
  have hq := nodup_of_turn hp hr hh
  funext t
  by_cases hst : t = s
  · subst hst
    rw [Function.update_self]
    cases hr' : r' with
    | none =>
      have hcount := (hh.map (·.1)).count_eq t
      simp only [List.map_append, List.count_append, count_single, count_holder hp, hr, hr',
        true_and, Option.isSome_none, Bool.false_eq_true, if_false] at hcount
      rw [role_eq_none_iff, ← List.count_eq_zero]
      omega
    | some ρ =>
      rw [role_eq_some_iff hq, ← List.count_pos_iff]
      have hcount := hh.count_eq (t, ρ)
      simp only [List.count_append, hr', single, Option.map_some, Option.toList_some,
        List.count_singleton_self] at hcount
      cases hrr : r with
      | none => simp [hrr] at hcount; omega
      | some τ =>
        have hpos : 0 < p.holdings.count (t, τ) :=
          List.count_pos_iff.2 ((role_eq_some_iff hp).1 (by rw [hr, hrr]))
        by_cases he : τ = ρ
        · subst he
          simp [hrr] at hcount
          omega
        · simp [hrr, he] at hcount
          omega
  · rw [Function.update_of_ne hst]
    apply Option.ext
    intro ρ
    rw [role_eq_some_iff hq, role_eq_some_iff hp]
    have hmem := hh.mem_iff (a := (t, ρ))
    have hns (r : Option Role) : (t, ρ) ∉ single s r := by
      cases r <;> simp [single, hst]
    simpa [hns] using hmem

lemma role_of_keep (hp : (p.holdings.map (·.1)).Nodup) (hh : q.holdings.Perm p.holdings) :
    q.role = p.role := by
  have hq : (q.holdings.map (·.1)).Nodup := ((hh.map _).nodup_iff).2 hp
  funext t
  apply Option.ext
  intro ρ
  rw [role_eq_some_iff hq, role_eq_some_iff hp]
  exact hh.mem_iff

lemma forall_setIfInBounds {α : Type} {P : Nat → α → Prop} {xs : Array α} {i : Nat} {a : α}
    (h : ∀ (j : Nat) (b : α), xs[j]? = some b → P j b) (ha : P i a) :
    ∀ (j : Nat) (b : α), (xs.setIfInBounds i a)[j]? = some b → P j b := by
  intro j b hb
  rw [Array.getElem?_setIfInBounds] at hb
  split at hb
  · rename_i hij
    split at hb
    · subst hij
      cases hb
      exact ha
    · cases hb
  · exact h j b hb

lemma forall_push {α : Type} {P : Nat → α → Prop} {xs : Array α} {a : α}
    (h : ∀ (j : Nat) (b : α), xs[j]? = some b → P j b) (ha : P xs.size a) :
    ∀ (j : Nat) (b : α), (xs.push a)[j]? = some b → P j b := by
  intro j b hb
  rw [Array.getElem?_push] at hb
  split at hb
  · rename_i hj
    cases hb
    exact hj ▸ ha
  · exact h j b hb

lemma early_of_move {e : Event} (hp : Custody p) (h : Move p e q) :
    ∀ (i : Nat) (c : Call), q.calls[i]? = some c → c.phase.isEarly = true → c.task = .none := by
  have hold := hp.early
  cases h with
  | arrive => exact forall_push hold fun _ => rfl
  | enter i c hc hph | ask i c hc hph | permit i c hc hph | take i c _ _ hc hph =>
    exact forall_setIfInBounds hold fun _ => hold i c hc (by rw [hph]; rfl)
  | turnAway | refuse | giveUp | miss | lend | deliver | expireWaiting | expireRunning
  | abandonWaiting | abandonEarly | abandonRunning =>
    exact forall_setIfInBounds hold fun hearly => by cases hearly
  | begin i _ c _ _ hc ht | settle i c _ _ _ hc ht | lapse i c _ _ hc ht | uncount i c _ _ hc ht
  | putBack i c _ _ _ hc ht | reject i c _ _ _ hc ht | repay i c _ hc ht
  | drop i c _ _ _ hc ht | sealUp i c _ hc ht | drain i c _ _ hc ht =>
    apply forall_setIfInBounds hold
    intro hearly
    have hnone := hold i c hc hearly
    rw [hnone] at ht
    cases ht
  | connected | close | shut | lock | allClosed | endNext | endOne | session => exact hold

lemma config_of_move {e : Event} (h : Move p e q) : q.config = p.config := by
  cases h <;> rfl

@[simp] lemma role_setSession (s : Nat) (y : Session) : (p.setSession s y).role = p.role := rfl

/-- What holds of the role and the state of every session still holds after one has changed. -/
lemma forall_roles_update {P : Nat → Option Role → Session → Prop} {s : Nat} {x y : Session}
    {r : Option Role} (hx : p.sessions[s]? = some x)
    (hs : q.sessions = p.sessions.setIfInBounds s y)
    (hrole : q.role = Function.update p.role s r)
    (hold : ∀ (t : Nat) (z : Session), t ≠ s → p.sessions[t]? = some z → P t (p.role t) z)
    (hy : P s r y) :
    ∀ (t : Nat) (z : Session), q.sessions[t]? = some z → P t (q.role t) z := by
  intro t z hz
  rw [hs] at hz
  rw [hrole]
  by_cases hst : t = s
  · subst hst
    rw [Array.getElem?_setIfInBounds_self_of_lt (Array.getElem?_eq_some_iff.1 hx).1] at hz
    cases hz
    rwa [Function.update_self]
  · rw [Array.getElem?_setIfInBounds_ne (Ne.symm hst)] at hz
    rw [Function.update_of_ne hst]
    exact hold t z hst hz

/-- What custody gives, every move keeps. -/
theorem custody_of_move {e : Event} (hp : Custody p) (h : Move p e q) : Custody q := by
  have hconfig := config_of_move h
  have hearly := early_of_move hp h
  rcases proceeds_or_shift hp h with ⟨s, event, x, y, -, hx, hxy, rfl⟩ | ⟨-, hshift⟩
  · refine ⟨?_, hp.nodup, hp.bound, ?_, hearly⟩
    · rw [setSession_sessions, Array.size_setIfInBounds, hconfig, hp.size]
    · refine forall_roles_update (P := fun _ => Role.Admits) (r := p.role s) hx rfl ?_
        (fun t z _ hz => hp.admits t z hz) (admits_of_proceeds hxy (hp.admits s x hx))
      rw [role_setSession, Function.update_eq_self]
  · cases hshift with
    | keep hh hs =>
      have hrole := role_of_keep hp.nodup hh
      refine ⟨?_, ((hh.map _).nodup_iff).2 hp.nodup, ?_, ?_, hearly⟩
      · rw [hs, hconfig, hp.size]
      · intro a ha
        rw [hconfig]
        exact hp.bound a (hh.mem_iff.1 ha)
      · rw [hs, hrole]
        exact hp.admits
    | turn s x y r r' hx hs hr hh _ ht =>
      have hrole := role_of_turn hp.nodup hr hh
      refine ⟨?_, nodup_of_turn hp.nodup hr hh, ?_, ?_, hearly⟩
      · rw [hs, Array.size_setIfInBounds, hconfig, hp.size]
      · intro a ha
        rw [hconfig]
        have hmem := hh.mem_iff.1 (List.mem_append_left _ ha)
        rcases List.mem_append.1 hmem with ha | ha
        · exact hp.bound a ha
        · have has : a.1 = s := by
            cases r' <;> simp [single] at ha
            rw [ha]
          rw [has, ← hp.size]
          exact (Array.getElem?_eq_some_iff.1 hx).1
      · refine forall_roles_update (P := fun _ => Role.Admits) hx hs hrole
          (fun t z _ hz => hp.admits t z hz) (ht.admits ?_)
        rw [← hr]
        exact hp.admits s x hx

lemma holdings_opening (config : ClientConfig) (start : Instant) :
    (Pool.opening config start).holdings = (List.range config.poolSize).map (·, Role.spare) := by
  simp [holdings, Pool.opening]

lemma nodup_opening (config : ClientConfig) (start : Instant) :
    ((Pool.opening config start).holdings.map (·.1)).Nodup := by
  rw [holdings_opening, List.map_map]
  simpa [Function.comp_def] using List.nodup_range

lemma role_opening {config : ClientConfig} {start : Instant} {s : Nat} {x : Session}
    (hx : (Pool.opening config start).sessions[s]? = some x) :
    (Pool.opening config start).role s = some .spare := by
  have hs : s < config.poolSize := by
    simpa [Pool.opening] using (Array.getElem?_eq_some_iff.1 hx).1
  rw [role_eq_some_iff (nodup_opening config start), holdings_opening]
  exact List.mem_map.2 ⟨s, List.mem_range.2 hs, rfl⟩

theorem custody_opening (config : ClientConfig) (start : Instant) :
    Custody (Pool.opening config start) := by
  refine ⟨by simp [Pool.opening], nodup_opening config start, ?_, ?_, by simp [Pool.opening]⟩
  · intro a ha
    rw [holdings_opening, List.mem_map] at ha
    obtain ⟨s, hs, rfl⟩ := ha
    exact List.mem_range.1 hs
  · intro s x hx
    rw [role_opening hx]
    simp [Pool.opening] at hx
    obtain ⟨_, -, rfl⟩ := hx
    exact .inl rfl

end Pool

end GraphClient
