import GraphClient.Proofs.Books

/-!
# Places of the sessions

Every session that a pool was opened with is in one place: idle, with one request, being
disconnected by one task or one closer, or gone. The permits of an open pool and its counters follow
from where the sessions are.
-/

namespace GraphClient

/-- Where a session can be. -/
inductive Place where
  | idle
  /-- With a call: its caller has taken it, or its task has. -/
  | request (call : Nat)
  | discarding (call : Nat)
  | closing (closer : Nat)
  | gone

namespace TaskPhase

/-- The task disconnects its session for good. -/
def isDiscarding : TaskPhase → Bool
  | discarding _ _ => true
  | _ => false

end TaskPhase

namespace Call

/-- A session belongs to the call, and its request has not given it up. -/
def Owns (c : Call) (s : Nat) : Prop :=
  c.phase = .holding s ∨ (c.task.session? = some s ∧ c.task.isDiscarding = false)

def Discards (c : Call) (s : Nat) : Prop :=
  c.task.session? = some s ∧ c.task.isDiscarding = true

/-- A write to the counters is due: the session of the call is neither idle nor in use. -/
def isMidway (c : Call) : Bool :=
  (match c.phase with
    | .holding _ => true
    | _ => false) ||
  (match c.task with
    | .placing _ _ | .discarding _ _ => true
    | _ => false)

end Call

namespace CloserPhase

/-- The closer has begun and has not disconnected all of its sessions. -/
def isMidway : CloserPhase → Bool
  | drained _ | clearing _ | disconnecting _ _ => true
  | arrived | done => false

/-- The sessions that a closer has to disconnect. -/
def sessions : CloserPhase → List Nat
  | drained sessions | clearing sessions => sessions
  | disconnecting s rest => s :: rest
  | arrived | done => []

lemma sessions_eq (f : CloserPhase) : f.sessions = f.holdings.map (·.1) := by
  cases f <;> simp [sessions, holdings, Function.comp_def]

end CloserPhase

namespace Pool

/-- A session is in a place. -/
def At (p : Pool) (s : Nat) : Place → Prop
  | .idle => p.idle.count s = 1
  | .request i => ∃ c, p.calls[i]? = some c ∧ c.Owns s
  | .discarding i => ∃ c, p.calls[i]? = some c ∧ c.Discards s
  | .closing k => ∃ f, p.closers[k]? = some f ∧ f.sessions.count s = 1
  | .gone =>
    s ∉ p.idle ∧ (∀ c ∈ p.calls, ¬c.Owns s ∧ ¬c.Discards s) ∧
      (∀ f ∈ p.closers, s ∉ f.sessions) ∧ ∃ x, p.sessions[s]? = some x ∧ x.IsOver

/-- The places of the sessions of a call. -/
def callPlaces (c : Call) (i : Nat) : List (Nat × Place) :=
  c.phase.holdings.map (fun h => (h.1, .request i)) ++
    c.task.holdings.map fun h =>
      (h.1, if c.task.isDiscarding then .discarding i else .request i)

/-- Every session that is held, with its place. -/
def places (p : Pool) : List (Nat × Place) :=
  p.idle.map (·, .idle) ++ p.calls.toList.zipIdx.flatMap (fun a => callPlaces a.1 a.2) ++
    p.closers.zipIdx.flatMap fun a => a.1.sessions.map (·, .closing a.2)

variable {p : Pool} {s : Nat}

lemma flatMap_zipIdx {α β : Type} (l : List α) (f : α → List β) :
    l.zipIdx.flatMap (fun a => f a.1) = l.flatMap f := by
  have hfst : l.zipIdx.map (·.1) = l := List.zipIdx_map_fst 0 l
  conv => rhs; rw [← hfst, List.flatMap_map]

lemma places_sessions (p : Pool) : p.places.map (·.1) = p.holdings.map (·.1) := by
  have hcall (a : Call × Nat) : (callPlaces a.1 a.2).map (·.1) = a.1.holdings.map (·.1) := by
    simp [callPlaces, Call.holdings, Function.comp_def]
  have hcloser (a : CloserPhase × Nat) :
      (a.1.sessions.map fun s => (s, Place.closing a.2)).map (·.1) = a.1.holdings.map (·.1) := by
    rw [CloserPhase.sessions_eq]
    simp [Function.comp_def]
  rw [places, holdings, List.map_append, List.map_append, List.map_append, List.map_append,
    List.map_flatMap, List.map_flatMap, List.map_flatMap, List.map_flatMap]
  simp only [hcall, hcloser]
  rw [flatMap_zipIdx p.calls.toList fun c => c.holdings.map (·.1),
    flatMap_zipIdx p.closers fun f => f.holdings.map (·.1)]
  simp [Function.comp_def]

lemma mem_task_holdings {t : TaskPhase} : s ∈ t.holdings.map (·.1) ↔ t.session? = some s := by
  cases t <;> simp [TaskPhase.holdings, TaskPhase.session?, eq_comm]

lemma mem_phase_holdings {phase : CallPhase} :
    s ∈ phase.holdings.map (·.1) ↔ phase = .holding s := by
  cases phase <;> simp [CallPhase.holdings, eq_comm]

lemma mem_map_pair {l : List (Nat × Role)} {place place' : Place} :
    (s, place) ∈ l.map (fun h => (h.1, place')) ↔ s ∈ l.map (·.1) ∧ place = place' := by
  constructor
  · intro hmem
    obtain ⟨h, hh, he⟩ := List.mem_map.1 hmem
    cases he
    exact ⟨List.mem_map.2 ⟨h, hh, rfl⟩, rfl⟩
  · rintro ⟨hmem, rfl⟩
    obtain ⟨h, hh, rfl⟩ := List.mem_map.1 hmem
    exact List.mem_map.2 ⟨h, hh, rfl⟩

lemma mem_callPlaces {c : Call} {i : Nat} {place : Place} :
    (s, place) ∈ callPlaces c i ↔
      (c.Owns s ∧ place = .request i) ∨ (c.Discards s ∧ place = .discarding i) := by
  rw [callPlaces, List.mem_append, mem_map_pair, mem_map_pair, mem_phase_holdings,
    mem_task_holdings]
  unfold Call.Owns Call.Discards
  cases c.task.isDiscarding <;> (simp; try tauto)

lemma mem_places_calls {place : Place} :
    (s, place) ∈ p.calls.toList.zipIdx.flatMap (fun a => callPlaces a.1 a.2) ↔
      ∃ (i : Nat) (c : Call), p.calls[i]? = some c ∧
        ((c.Owns s ∧ place = .request i) ∨ (c.Discards s ∧ place = .discarding i)) := by
  rw [List.mem_flatMap]
  constructor
  · rintro ⟨⟨c, i⟩, hc, hs⟩
    rw [List.mem_zipIdx_iff_getElem?] at hc
    exact ⟨i, c, by simpa using hc, mem_callPlaces.1 hs⟩
  · rintro ⟨i, c, hc, hs⟩
    refine ⟨(c, i), ?_, mem_callPlaces.2 hs⟩
    rw [List.mem_zipIdx_iff_getElem?]
    simpa using hc

lemma mem_places_closers {place : Place} :
    (s, place) ∈ p.closers.zipIdx.flatMap (fun a => a.1.sessions.map (·, .closing a.2)) ↔
      ∃ (k : Nat) (f : CloserPhase), p.closers[k]? = some f ∧ s ∈ f.sessions ∧
        place = .closing k := by
  rw [List.mem_flatMap]
  constructor
  · rintro ⟨⟨f, k⟩, hf, hs⟩
    rw [List.mem_zipIdx_iff_getElem?] at hf
    obtain ⟨t, ht, he⟩ := List.mem_map.1 hs
    cases he
    exact ⟨k, f, hf, ht, rfl⟩
  · rintro ⟨k, f, hf, hs, rfl⟩
    refine ⟨(f, k), ?_, List.mem_map.2 ⟨s, hs, rfl⟩⟩
    rw [List.mem_zipIdx_iff_getElem?]
    exact hf

lemma nodup_idle (hp : Custody p) : p.idle.Nodup := by
  have h := hp.nodup
  rw [holdings, List.map_append, List.map_append, List.map_map] at h
  simpa [Function.comp_def] using h.of_append_left.of_append_left

lemma nodup_closer (hp : Custody p) {k : Nat} {f : CloserPhase} (hf : p.closers[k]? = some f) :
    f.sessions.Nodup := by
  have h := hp.nodup
  rw [holdings, List.map_append, List.map_flatMap] at h
  have hflat := (List.nodup_flatMap.1 h.of_append_right).1 f (List.mem_of_getElem? hf)
  rwa [CloserPhase.sessions_eq]

/-- A session is in a place other than gone exactly when it is held there. -/
lemma mem_places_iff (hp : Custody p) {place : Place} :
    (s, place) ∈ p.places ↔ p.At s place ∧ place ≠ .gone := by
  have hidle : (s, place) ∈ p.idle.map (·, Place.idle) ↔ p.idle.count s = 1 ∧ place = .idle := by
    rw [List.mem_map]
    constructor
    · rintro ⟨t, ht, he⟩
      cases he
      exact ⟨List.count_eq_one_of_mem (nodup_idle hp) ht, rfl⟩
    · rintro ⟨hcount, rfl⟩
      exact ⟨s, List.count_pos_iff.1 (by omega), rfl⟩
  rw [places, List.mem_append, List.mem_append, hidle, mem_places_calls, mem_places_closers]
  cases place with
  | idle => simp [At]
  | request i => simp [At]
  | discarding i => simp [At]
  | closing k =>
    simp only [At, reduceCtorEq, and_false, exists_false, false_or, or_self, ne_eq,
      not_false_eq_true, and_true, Place.closing.injEq]
    constructor
    · rintro ⟨k', f, hf, hs, rfl⟩
      exact ⟨f, hf, List.count_eq_one_of_mem (nodup_closer hp hf) hs⟩
    · rintro ⟨f, hf, hcount⟩
      exact ⟨k, f, hf, List.count_pos_iff.1 (by omega), rfl⟩
  | gone => simp

lemma at_gone_iff (hp : Custody p) (hs : s < p.config.poolSize) :
    p.At s .gone ↔ p.role s = none := by
  have hnone : p.role s = none ↔ ∀ place, (s, place) ∉ p.places := by
    rw [role_eq_none_iff, ← places_sessions, List.mem_map]
    constructor
    · intro h place hplace
      exact h ⟨(s, place), hplace, rfl⟩
    · rintro h ⟨a, ha, rfl⟩
      exact h a.2 ha
  constructor
  · rintro ⟨hidle, hcalls, hclosers, -⟩
    rw [hnone]
    intro place hplace
    rw [places, List.mem_append, List.mem_append, mem_places_calls, mem_places_closers] at hplace
    rcases hplace with (hplace | ⟨i, c, hc, ho⟩) | ⟨k, f, hf, hfs, -⟩
    · obtain ⟨t, ht, he⟩ := List.mem_map.1 hplace
      cases he
      exact hidle ht
    · have hno := hcalls c (Array.mem_of_getElem? hc)
      tauto
    · exact hclosers f (List.mem_of_getElem? hf) hfs
  · intro hrole
    have hfree := hnone.1 hrole
    refine ⟨?_, ?_, ?_, ?_⟩
    · intro hidle
      refine hfree .idle ((mem_places_iff hp).2 ⟨?_, by simp⟩)
      exact List.count_eq_one_of_mem (nodup_idle hp) hidle
    · intro c hc
      obtain ⟨i, hi⟩ := Array.mem_iff_getElem?.1 hc
      constructor
      · intro ho
        exact hfree (.request i) ((mem_places_iff hp).2 ⟨⟨c, hi, ho⟩, by simp⟩)
      · intro hd
        exact hfree (.discarding i) ((mem_places_iff hp).2 ⟨⟨c, hi, hd⟩, by simp⟩)
    · intro f hf hfs
      obtain ⟨k, hk⟩ := List.mem_iff_getElem?.1 hf
      refine hfree (.closing k) ((mem_places_iff hp).2 ⟨⟨f, hk, ?_⟩, by simp⟩)
      exact List.count_eq_one_of_mem (nodup_closer hp hk) hfs
    · have hlt : s < p.sessions.size := by rwa [hp.size]
      have hx : p.sessions[s]? = some p.sessions[s] := Array.getElem?_eq_getElem hlt
      have hover := hp.admits s _ hx
      rw [hrole] at hover
      exact ⟨_, hx, hover⟩

lemma length_flatMap_of_count {α β : Type} {f : α → List β} {u v : α → Bool} {l : List α}
    (h : ∀ a ∈ l, (f a).length = (u a).toNat + (v a).toNat) :
    (l.flatMap f).length = l.countP u + l.countP v := by
  induction l with
  | nil => rfl
  | cons a l ih =>
    have ha := h a List.mem_cons_self
    have hl := ih fun b hb => h b (List.mem_cons_of_mem a hb)
    rw [List.flatMap_cons, List.length_append, ha, hl, List.countP_cons, List.countP_cons]
    cases u a <;> cases v a <;> simp <;> omega

/-- A call holds one session while it is in use or between two writes, and else none. -/
lemma holdings_length (hp : Custody p) {c : Call} (hc : c ∈ p.calls) :
    c.holdings.length = c.isCounted.toNat + c.isMidway.toNat := by
  obtain ⟨i, hi⟩ := Array.mem_iff_getElem?.1 hc
  have hearly := hp.early i c hi
  unfold Call.holdings Call.isCounted Call.isMidway
  cases hphase : c.phase with
  | holding s =>
    rw [hearly (by rw [hphase]; rfl)]
    rfl
  | _ => cases c.task <;> rfl

/-- The live sessions are those that are idle, in use, or with a call or a closer midway. -/
lemma live_eq (hp : Custody p) (hb : Books p) :
    p.live = p.idle.length + p.inUse + p.tally Call.isMidway +
      (p.closers.flatMap CloserPhase.holdings).length := by
  have hcalls : (p.calls.toList.flatMap Call.holdings).length =
      p.tally Call.isCounted + p.tally Call.isMidway :=
    length_flatMap_of_count fun c hc => holdings_length hp (Array.mem_toList_iff.1 hc)
  rw [hb.live, hb.inUse, holdings, List.length_append, List.length_append, List.length_map,
    hcalls]
  omega

/-- In every reachable state of a pool, whatever its callers, tasks, closers, channels and clock have
done: each session is in exactly one place; while the pool is open its idle sessions are counted by
the permits, so that a caller with a permit finds a session; and the live sessions are those that
are idle or in use whenever nobody is between two writes to the counters. -/
theorem session_in_one_place {config : ClientConfig} {start : Instant} {log : List Note}
    (h : History config start log p) :
    (∀ s < config.poolSize, ∃! place, p.At s place) ∧
    (p.isOpen = true →
      p.idle.length =
        p.semaphore.available + p.tally Call.isPermitted + p.tally Call.isPermitting) ∧
    (p.isOpen = true → ∀ (i : Nat) (c : Call), p.calls[i]? = some c → c.phase = .permitted →
      ∃ s rest, p.idle = s :: rest ∧
        p.callStep? i = some ({ p with idle := rest }.setCall i { c with phase := .holding s })) ∧
    ((∀ c ∈ p.calls, c.isMidway = false) → (∀ f ∈ p.closers, f.isMidway = false) →
      p.live = p.idle.length + p.inUse) := by
  have hp := custody_of_history h
  have hb := books_of_history h
  refine ⟨?_, hb.permits, ?_, ?_⟩
  · intro s hs
    rw [← config_of_history h] at hs
    cases hrole : p.role s with
    | none =>
      refine ⟨.gone, (at_gone_iff hp hs).2 hrole, ?_⟩
      intro place hat
      by_contra hne
      have hmem := List.mem_map_of_mem (f := (·.1)) ((mem_places_iff hp).2 ⟨hat, hne⟩)
      rw [places_sessions] at hmem
      exact role_eq_none_iff.1 hrole hmem
    | some r =>
      have hheld : s ∈ p.places.map (·.1) := by
        rw [places_sessions]
        exact List.mem_map_of_mem (f := (·.1)) ((role_eq_some_iff hp.nodup).1 hrole)
      obtain ⟨a, ha, rfl⟩ := List.mem_map.1 hheld
      have hat := (mem_places_iff hp).1 ha
      refine ⟨a.2, hat.1, ?_⟩
      intro place hplace
      have hne : place ≠ .gone := by
        rintro rfl
        rw [at_gone_iff hp hs, hrole] at hplace
        cases hplace
      have hnodup : (p.places.map (·.1)).Nodup := by
        rw [places_sessions]
        exact hp.nodup
      have hpair := (mem_places_iff hp).2 ⟨hplace, hne⟩
      exact congrArg Prod.snd (List.inj_on_of_nodup_map hnodup hpair ha rfl)
  · intro hopen i c hc hph
    have hpermits := hb.permits hopen
    have hpos : 0 < p.tally Call.isPermitted := tally_pos hc (by rw [Call.isPermitted, hph])
    cases hidle : p.idle with
    | nil =>
      rw [hidle, List.length_nil] at hpermits
      omega
    | cons s rest =>
      refine ⟨s, rest, rfl, ?_⟩
      simp only [callStep?, hc, Option.bind_eq_bind, Option.bind_some, hph, takeIdle, hidle]
  · intro hcalls hclosers
    have hlive := live_eq hp hb
    have hmid : p.tally Call.isMidway = 0 := by
      rw [tally, List.countP_eq_zero]
      intro c hc
      simp [hcalls c (Array.mem_toList_iff.1 hc)]
    have hnone : p.closers.flatMap CloserPhase.holdings = [] := by
      rw [List.flatMap_eq_nil_iff]
      intro f hf
      have hidle := hclosers f hf
      cases f with
      | arrived | done => rfl
      | drained | clearing | disconnecting => cases hidle
    rw [hmid, hnone] at hlive
    simpa using hlive

/-- Two calls on two sessions, the second of which could not be opened: the first call has begun its
request, and the second has a permit and is about to take its session. -/
def pairRun : List Event :=
  [.session 0 (.opened true), .session 1 (.opened false), .connected,
    .arrive "g.V()" (.ofMillis 50), .arrive "g.E()" (.ofMillis 50), .call 0, .call 0, .call 1,
    .call 1, .call 0, .call 0, .call 0, .begin 0 Uuid.nil, .call 1, .session 0 .claim]

theorem session_in_one_place_of_two :
    ∃ p, (Pool.opening { poolSize := 2 } (.ofMillis 0)).run? pairRun = some p ∧
      (∀ s < 2, ∃! place, p.At s place) ∧
      p.idle.length =
        p.semaphore.available + p.tally Call.isPermitted + p.tally Call.isPermitting ∧
      p.idle = [1] := by
  have hrun : ((Pool.opening { poolSize := 2 } (.ofMillis 0)).run? pairRun).any
      (fun p => p.isOpen ∧ p.idle = [1]) = true := by
    decide +kernel
  obtain ⟨p, hp, hstate⟩ := (Option.any_eq_true _ _).1 hrun
  have hpool := session_in_one_place (history_of_run .opening hp)
  simp only [decide_eq_true_eq] at hstate
  exact ⟨p, hp, hpool.1, hpool.2.1 hstate.1, hstate.2⟩

end Pool

end GraphClient
