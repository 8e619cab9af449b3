import GraphClient.Proofs.Queueing

/-!
# Turns at checkout

Sessions go to callers in the order in which these began to wait. Whoever has been given a permit
gets its session by its own steps alone, before time passes, and if those who have permits take
their sessions in turn then the sessions are taken in that order too. Whoever stops waiting takes no
session, and in an open pool nobody waits for a session that is idle.
-/

namespace GraphClient

namespace CallPhase

def isHolding : CallPhase → Bool
  | holding _ => true
  | _ => false

end CallPhase

/-- The caller that takes a session with this event. -/
def Happening.takes? (h : Happening) : Option Nat :=
  match h.event with
  | .call i => if h.after.calls[i]?.any (·.phase.isHolding) then some i else none
  | _ => none

lemma not_before_of_before {α : Type} {l : List α} {a b : α} (hl : l.Nodup)
    (h : [a, b].Sublist l) : ¬[b, a].Sublist l := by
  intro h'
  induction l with
  | nil => cases h
  | cons c l ih =>
    rw [List.nodup_cons] at hl
    have hleft {x y : α} (hs : [x, y].Sublist l) : x ∈ l := hs.subset List.mem_cons_self
    have hright {x y : α} (hs : [x, y].Sublist l) : y ∈ l :=
      hs.subset (List.mem_cons_of_mem _ List.mem_cons_self)
    rcases List.sublist_cons_iff.1 h with hs | ⟨r, hr, hs⟩
    · rcases List.sublist_cons_iff.1 h' with hs' | ⟨r', hr', hs'⟩
      · exact ih hl.2 hs hs'
      · cases hr'
        exact hl.1 (hright hs)
    · cases hr
      rcases List.sublist_cons_iff.1 h' with hs' | ⟨r', hr', hs'⟩
      · exact hl.1 (hright hs')
      · cases hr'
        exact hl.1 (hs.subset List.mem_cons_self)

namespace Pool

variable {config : ClientConfig} {start : Instant} {p q r : Pool} {path after : List Happening}
variable {i j : Nat} {c : Call}

/-- A call that waits and has not been given a permit is overtaken by none that began later. -/
lemma not_waiting_of_given (hq : Queued path p) (h : [i, j].Sublist (asked path))
    (hj : j ∈ given path) : i ∉ p.semaphore.waiting := by
  intro hi
  have hpair : ([j] ++ [i]).Sublist (given path ++ p.semaphore.waiting) :=
    (List.singleton_sublist.2 hj).append (List.singleton_sublist.2 hi)
  exact not_before_of_before hq.inOrder.once h (hpair.trans hq.inOrder.order)

lemma holding_of_lent {e : Event} {s : Nat} (hn : Happening.note? ⟨p, e, q⟩ = some (.lent i s)) :
    ∃ c, p.calls[i]? = some c ∧ c.phase = .holding s := by
  cases noted_of_note hn with
  | lent _ c _ hc hp => exact ⟨c, hc, hp⟩
  | session _ _ _ _ _ hs => cases hs

lemma given_of_lent (h : Course (Pool.opening config start) path p) {s : Nat}
    (hl : .lent i s ∈ path.filterMap Happening.note?) : i ∈ given path := by
  induction h with
  | start => cases hl
  | @act path q r e hq _ ih =>
    rw [given_concat, List.mem_append]
    left
    rw [List.filterMap_append, List.mem_append] at hl
    rcases hl with hl | hl
    · exact ih hl
    · obtain ⟨h, hh, hn⟩ := List.mem_filterMap.1 hl
      cases List.mem_singleton.1 hh
      obtain ⟨c, hc, hp⟩ := holding_of_lent hn
      exact (queued_of_course hq).served i c hc (by rw [hp]; rfl)
  | wait _ _ ih => exact ih hl

section Served

lemma waiting_of_line (hq : Queued path p) (hi : i ∈ p.semaphore.line) :
    ∃ c, p.calls[i]? = some c ∧ c.phase = .waiting := by
  obtain ⟨c, hc, -⟩ := hq.known i (hq.inOrder.mem_of_line hi)
  have hw := (hq.waits i c hc).2 hi
  refine ⟨c, hc, ?_⟩
  cases hp : c.phase <;> simp_all [CallPhase.isWaiting]

/-- The pool after the caller that was given a permit has got the first idle session. -/
def handedOver (p : Pool) (i : Nat) (c : Call) (s : Nat) (rest : List Nat) : Pool :=
  { p with
    semaphore := p.semaphore.consume i
    idle := rest
    inUse := p.inUse + 1
    checkouts := p.checkouts + 1
    calls := p.calls.setIfInBounds i { c with phase := .running, task := .spawned s } }

lemma getElem_setCall {c' : Call} (hc : p.calls[i]? = some c) :
    (p.setCall i c').calls[i]? = some c' :=
  Array.getElem?_setIfInBounds_self_of_lt (Array.getElem?_eq_some_iff.1 hc).1

/-- A caller with a permit uses it up, takes the first idle session and begins its task. -/
lemma run_of_granted {s : Nat} {rest : List Nat} (hc : p.calls[i]? = some c)
    (hp : c.phase = .waiting) (hs : p.semaphore.closed = false) (hg : i ∈ p.semaphore.granted)
    (hidle : p.idle = s :: rest) :
    p.run? [.call i, .call i, .call i] = some (p.handedOver i c s rest) := by
  let p₁ := { p with semaphore := p.semaphore.consume i }.setCall i { c with phase := .permitted }
  let p₂ := { p₁ with idle := rest }.setCall i { c with phase := .holding s }
  have hc₁ : p₁.calls[i]? = some { c with phase := .permitted } := getElem_setCall hc
  have hc₂ : p₂.calls[i]? = some { c with phase := .holding s } := getElem_setCall hc₁
  have h₁ : p.step? (.call i) = some p₁ := by
    simp [step?, act?, callStep?, hc, hp, hs, hg, p₁]
  have h₂ : p₁.step? (.call i) = some p₂ := by
    have hidle₁ : p₁.idle = s :: rest := hidle
    simp [step?, act?, callStep?, hc₁, takeIdle, hidle₁, p₂]
  have h₃ : p₂.step? (.call i) = some (p₂.lend i { c with phase := .holding s } s) := by
    simp [step?, act?, callStep?, hc₂]
  have hlast : p₂.lend i { c with phase := .holding s } s = p.handedOver i c s rest := by
    simp [p₁, p₂, lend, setCall, handedOver]
  simp [run?, h₁, h₂, h₃, hlast]

/-- In an open pool with live sessions there are idle sessions for all who were given a permit. -/
lemma idle_of_granted (h : Course (Pool.opening config start) path p) (ho : p.isOpen = true) :
    p.semaphore.granted.length ≤ p.idle.length := by
  have hbooks := (books_of_history (history_of_opening h)).permits ho
  rw [Semaphore.available] at hbooks
  omega

lemma not_closed_of_live (h : Course (Pool.opening config start) path p) (ho : p.isOpen = true)
    (hl : 0 < p.live) : p.semaphore.closed = false := by
  cases hs : p.semaphore.closed with
  | false => rfl
  | true =>
    rcases (ending_of_history (history_of_opening h)).closed hs with hno | hspent
    · rw [ho] at hno
      cases hno
    · have hzero := hspent.1
      omega

/-- Whoever was given a permit gets a session by its own next steps. -/
lemma handedOver_of_granted (h : Course (Pool.opening config start) path p)
    (ho : p.isOpen = true) (hl : 0 < p.live) (hi : i ∈ p.semaphore.granted) :
    ∃ c s rest, p.calls[i]? = some c ∧ p.idle = s :: rest ∧
      p.run? [.call i, .call i, .call i] = some (p.handedOver i c s rest) := by
  have hq := queued_of_course h
  obtain ⟨c, hc, hp⟩ := waiting_of_line hq (List.mem_append_left _ hi)
  have hs := not_closed_of_live h ho hl
  have hlength := idle_of_granted h ho
  have hpos := List.length_pos_of_mem hi
  cases hidle : p.idle with
  | nil =>
    rw [hidle, List.length_nil] at hlength
    omega
  | cons s rest => exact ⟨c, s, rest, hc, rfl, run_of_granted hc hp hs hi hidle⟩

/-- When nobody has a step to take at this instant, whoever began to wait before a call that was
given a permit has its session already, or waits no longer. -/
lemma served_of_quiet (h : Course (Pool.opening config start) path p) (hquiet : p.isQuiet = true)
    (hij : [i, j].Sublist (asked path)) (hj : j ∈ given path) :
    ∃ c, p.calls[i]? = some c ∧ (c.phase = .running ∨ c.phase.isOver = true) := by
  have hq := queued_of_course h
  obtain ⟨c, hc, hnew⟩ := hq.known i (hij.subset List.mem_cons_self)
  refine ⟨c, hc, ?_⟩
  have hlt : i < p.calls.size := (Array.getElem?_eq_some_iff.1 hc).1
  have hnone : p.act? (.call i) = none :=
    act_eq_none_of_quiet hquiet (by simp [internalEvents, timerEvents, hlt])
  simp only [act?, callStep?, hc, Option.bind_eq_bind, Option.bind_some] at hnone
  cases hp : c.phase with
  | running => exact .inl rfl
  | returned | abandoned => exact .inr rfl
  | arrived | admitted =>
    rw [hp] at hnew
    cases hnew
  | permitted | holding =>
    rw [hp] at hnone
    cases hnone
  | waiting =>
    have hline := (hq.waits i c hc).1 (by rw [hp]; rfl)
    have hgranted : i ∈ p.semaphore.granted :=
      (List.mem_append.1 hline).resolve_right (not_waiting_of_given hq hij hj)
    rw [hp] at hnone
    simp only [hgranted, if_true] at hnone
    split at hnone <;> cases hnone

end Served

section InTurn

/-- The call has asked for a permit and has not taken a session. -/
def isComing (p : Pool) (i : Nat) : Bool := p.calls[i]?.any (·.phase.isComing)

/-- The callers that have been given a permit and have not taken a session, in the order of their
permits. -/
def onTheWay (path : List Happening) (p : Pool) : List Nat := (given path).filter p.isComing

/-- Those who have been given permits take their sessions in that order. -/
def TakenInTurn (path : List Happening) : Prop :=
  ∀ before h after i, path = before ++ h :: after → h.takes? = some i →
    (onTheWay before h.before).head? = some i

lemma takenInTurn_of_check
    (h : (List.range path.length).all (fun n => path[n]?.all fun h => h.takes?.all fun i =>
      (onTheWay (path.take n) h.before).head? = some i) = true) : TakenInTurn path := by
  rintro before h' after i rfl htakes
  have hn := List.all_eq_true.1 h before.length (List.mem_range.2 (by simp))
  simpa [htakes] using hn

lemma isComing_eq (hc : p.calls[i]? = some c) : p.isComing i = c.phase.isComing := by
  rw [isComing, hc]
  rfl

lemma isComing_of_shuffle {asks : List Nat} (hq : Queued path p) (h : Shuffle p q asks)
    (hi : i ∈ asked path) (hw : q.isComing i = true) : p.isComing i = true := by
  obtain ⟨c, hc, hnew⟩ := hq.known i hi
  obtain ⟨c', hc', hf⟩ := follows_of_shuffle h hc
  rw [isComing_eq hc'] at hw
  rw [isComing_eq hc]
  rcases hf.isComing hw with hcoming | hnew'
  · exact hcoming
  · rw [hnew] at hnew'
    cases hnew'

/-- Those on the way to a session after an event were so before, or are given a permit by it. -/
lemma onTheWay_of_shuffle {e : Event} (hq : Queued path p)
    (h : Shuffle p q (Happening.asked ⟨p, e, q⟩)) :
    (onTheWay (path ++ [⟨p, e, q⟩]) q).Sublist
      ((onTheWay path p).filter q.isComing ++ Happening.given ⟨p, e, q⟩) := by
  have hstill : (given path).filter q.isComing = (onTheWay path p).filter q.isComing := by
    rw [onTheWay, List.filter_filter]
    refine List.filter_congr fun i hi => ?_
    have hmem : i ∈ asked path := hq.inOrder.order.subset (List.mem_append_left _ hi)
    cases hw : q.isComing i with
    | false => rfl
    | true => rw [isComing_of_shuffle hq h hmem hw]; rfl
  rw [onTheWay, given_concat, List.filter_append, hstill]
  exact (List.Sublist.refl _).append List.filter_sublist

lemma not_coming_of_takes {e : Event} (h : Happening.takes? ⟨p, e, q⟩ = some i) :
    q.isComing i = false := by
  unfold Happening.takes? at h
  split at h
  · split at h <;> cases h
    rename_i hany
    obtain ⟨c, hc, hholding⟩ := (Option.any_eq_true _ _).1 hany
    rw [isComing_eq hc]
    cases hp : c.phase <;> simp_all [CallPhase.isHolding, CallPhase.isComing]
  · cases h

/-- If sessions are taken in turn, those who took one and those on the way to one are in the order
of their permits. -/
lemma taken_of_course (h : Course (Pool.opening config start) path p) (ht : TakenInTurn path) :
    (path.filterMap Happening.takes? ++ onTheWay path p).Sublist (given path) := by
  induction h with
  | start => exact List.Sublist.refl []
  | @act path q r e hq he ih =>
    have hbefore : TakenInTurn path := by
      intro before h after i hpath htakes
      exact ht before h (after ++ [⟨q, e, r⟩]) i (by rw [hpath, List.append_assoc]; rfl) htakes
    have hold := ih hbefore
    have hway := onTheWay_of_shuffle (queued_of_course hq) (shuffle_of_move (move_of_act he))
    rw [given_concat, List.filterMap_append]
    refine List.Sublist.trans ?_ (hold.append (List.Sublist.refl _))
    cases htakes : Happening.takes? ⟨q, e, r⟩ with
    | none =>
      simp only [List.filterMap_cons, htakes, List.filterMap_nil, List.append_nil]
      rw [List.append_assoc]
      exact (List.Sublist.refl _).append
        (hway.trans (List.filter_sublist.append (List.Sublist.refl _)))
    | some i =>
      -- the first of those on the way takes the session, and the others stay behind it
      have hhead := ht path ⟨q, e, r⟩ [] i rfl htakes
      obtain ⟨rest, hrest⟩ := List.head?_eq_some_iff.1 hhead
      simp only [List.filterMap_cons, htakes, List.filterMap_nil]
      rw [hrest, List.filter_cons_of_neg (by simp [not_coming_of_takes htakes])] at hway
      rw [hrest, List.append_assoc, List.append_assoc]
      exact (List.Sublist.refl _).append
        ((hway.trans (List.filter_sublist.append (List.Sublist.refl _))).cons_cons i)
  | wait _ _ ih => exact ih ht

end InTurn

section Leaving

lemma over_of_course (h : Course p after q) (hc : p.calls[i]? = some c)
    (ho : c.phase.isOver = true) : ∃ c', q.calls[i]? = some c' ∧ c'.phase.isOver = true := by
  induction h with
  | start => exact ⟨c, hc, ho⟩
  | act _ he ih =>
    obtain ⟨c', hc', ho'⟩ := ih
    obtain ⟨c'', hc'', hf⟩ := follows_of_shuffle (shuffle_of_move (move_of_act he)) hc'
    exact ⟨c'', hc'', hf.isOver ho'⟩
  | wait _ _ ih => exact ih

lemma not_lent_of_over (h : Course p after q) (hc : p.calls[i]? = some c)
    (ho : c.phase.isOver = true) (s : Nat) : .lent i s ∉ after.filterMap Happening.note? := by
  induction h with
  | start => exact List.not_mem_nil
  | act hq _ ih =>
    rw [List.filterMap_append, List.mem_append]
    rintro (hl | hl)
    · exact ih hl
    · obtain ⟨h, hh, hn⟩ := List.mem_filterMap.1 hl
      cases List.mem_singleton.1 hh
      obtain ⟨b, hb, hp⟩ := holding_of_lent hn
      obtain ⟨c', hc', ho'⟩ := over_of_course hq hc ho
      rw [hb] at hc'
      cases hc'
      rw [hp] at ho'
      cases ho'
  | wait _ _ ih => exact ih

/-- A call that times out or is abandoned while it waits. -/
lemma leaves_of_act {e : Event} (hc : p.calls[i]? = some c) (hp : c.phase = .waiting)
    (he : e = .expire i ∨ e = .abandon i) (h : p.act? e = some q) :
    q.semaphore = p.semaphore.leave i ∧ q.idle = p.idle ∧
      ∃ c', q.calls = p.calls.setIfInBounds i c' ∧ c'.phase.isOver = true := by
  have hsame {b : Call} (hb : p.calls[i]? = some b) : b.phase = .waiting := by
    rw [hc] at hb
    cases hb
    exact hp
  rcases he with rfl | rfl
  · cases move_of_act h with
    | expireWaiting => exact ⟨rfl, rfl, _, rfl, rfl⟩
    | expireRunning _ _ hb hph =>
      have hw := hsame hb
      rw [hph] at hw
      cases hw
  · cases move_of_act h with
    | abandonWaiting => exact ⟨rfl, rfl, _, rfl, rfl⟩
    | abandonEarly _ _ hb hph | abandonRunning _ _ hb hph =>
      have hw := hsame hb
      rw [hph] at hw
      cases hw

end Leaving

/-- In an open pool in which nobody is on the way between a permit and a session, nobody waits
while a session is idle. -/
lemma idle_or_nobody_waits (h : Course (Pool.opening config start) path p) (ho : p.isOpen = true)
    (hg : p.semaphore.granted = [])
    (hc : ∀ c ∈ p.calls, c.isPermitted = false ∧ c.isPermitting = false) :
    p.idle = [] ∨ ∀ c ∈ p.calls, c.phase.isWaiting = false := by
  have hq := queued_of_course h
  have hnone (f : Call → Bool) (hf : ∀ c ∈ p.calls, f c = false) : p.tally f = 0 := by
    rw [tally, List.countP_eq_zero]
    intro c hmem
    simp [hf c (Array.mem_toList_iff.1 hmem)]
  have hbooks := (books_of_history (history_of_opening h)).permits ho
  rw [hnone _ fun c hmem => (hc c hmem).1, hnone _ fun c hmem => (hc c hmem).2,
    Semaphore.available, hg, List.length_nil] at hbooks
  cases hpermits : p.semaphore.permits with
  | zero =>
    rw [hpermits] at hbooks
    exact .inl (List.length_eq_zero_iff.1 hbooks)
  | succ n =>
    right
    intro c hmem
    obtain ⟨i, hi⟩ := Array.getElem?_of_mem hmem
    cases hw : c.phase.isWaiting with
    | false => rfl
    | true =>
      have hline := (hq.waits i c hi).1 hw
      rw [Semaphore.line, hg, hq.inOrder.free (by omega)] at hline
      cases hline

/-- What the queue for sessions promises to those who wait in it. -/
structure ServesInOrder (path : List Happening) (p : Pool) : Prop where
  /-- Each call begins to wait once at most. Permits are given to calls in the order in which they
  began to wait, once at most to each, and those who wait without one come after them. -/
  order : (asked path).Nodup ∧ (given path ++ p.semaphore.waiting).Sublist (asked path)
  /-- The calls that wait are those without a permit and those who have not seen theirs. -/
  waits : ∀ i c, p.calls[i]? = some c →
    (c.phase.isWaiting = true ↔ i ∈ p.semaphore.granted ∨ i ∈ p.semaphore.waiting)
  /-- No call is given a permit while one that began to wait earlier waits without a permit. -/
  overtaking : ∀ i j, [i, j].Sublist (asked path) → j ∈ given path → i ∉ p.semaphore.waiting
  /-- No call gets a session without a permit. -/
  lent : ∀ i s, .lent i s ∈ path.filterMap Happening.note? → i ∈ given path
  /-- In an open pool with live sessions, whoever was given a permit gets the first idle session by
  its own next steps. -/
  handed : p.isOpen = true → 0 < p.live → ∀ i ∈ p.semaphore.granted, ∃ c s rest,
    p.calls[i]? = some c ∧ p.idle = s :: rest ∧
      p.run? [.call i, .call i, .call i] = some (p.handedOver i c s rest)
  /-- Whatever the others have done since, a call that has used up its permit finds an idle session
  as long as the pool is open. -/
  found : p.isOpen = true → ∀ (i : Nat) (c : Call), p.calls[i]? = some c → c.phase = .permitted →
    p.idle ≠ []
  /-- Before time passes, whoever began to wait before a call that was given a permit has got its
  session too, unless it has left. -/
  instant : p.isQuiet = true → ∀ i j, [i, j].Sublist (asked path) → j ∈ given path →
    ∃ c, p.calls[i]? = some c ∧ (c.phase = .running ∨ c.phase.isOver = true)
  /-- If those who were given permits go on in turn, sessions are taken in the order in which their
  callers began to wait. -/
  inTurn : TakenInTurn path → (path.filterMap Happening.takes?).Sublist (asked path)
  /-- A call that times out or is abandoned while it waits leaves the others in their order and all
  permits and idle sessions where they are, and it never gets a session. -/
  leaves : ∀ i c e q, p.calls[i]? = some c → c.phase = .waiting → e = .expire i ∨ e = .abandon i →
    p.act? e = some q →
      q.semaphore.line = p.semaphore.line.erase i ∧
      q.semaphore.available = p.semaphore.available ∧ q.idle = p.idle ∧
      ∀ after r s, Course q after r →
        .lent i s ∉ (path ++ ⟨p, e, q⟩ :: after).filterMap Happening.note?
  /-- In an open pool no call waits while a session is idle, unless a checkout or a release is in
  progress: a permit that was given and not seen, one that was used up for no session yet, or a
  session that was put back without its permit. -/
  between : p.isOpen = true → p.semaphore.granted = [] →
    (∀ c ∈ p.calls, c.isPermitted = false ∧ c.isPermitting = false) →
    p.idle = [] ∨ ∀ c ∈ p.calls, c.phase.isWaiting = false

/-- In every course of a pool, calls are served in the order in which they began to wait. -/
theorem serves_in_order (h : Course (Pool.opening config start) path p) : ServesInOrder path p where
  order := ⟨(queued_of_course h).inOrder.once, (queued_of_course h).inOrder.order⟩
  waits i c hc := by
    rw [(queued_of_course h).waits i c hc, Semaphore.line, List.mem_append]
  overtaking i j hij hj := not_waiting_of_given (queued_of_course h) hij hj
  lent i s hl := given_of_lent h hl
  handed ho hl i hi := handedOver_of_granted h ho hl hi
  found ho i c hc hp hidle := by
    rw [not_open_of_miss (books_of_history (history_of_opening h)) hc hp hidle] at ho
    cases ho
  instant hquiet i j hij hj := served_of_quiet h hquiet hij hj
  inTurn ht := by
    have hgiven : (given path).Sublist (asked path) :=
      (List.sublist_append_left _ _).trans (queued_of_course h).inOrder.order
    exact (List.sublist_append_left _ _).trans ((taken_of_course h ht).trans hgiven)
  leaves i c e q hc hp he hact := by
    obtain ⟨hs, hidle, c', hcalls, hover⟩ := leaves_of_act hc hp he hact
    have hc' : q.calls[i]? = some c' := by
      rw [hcalls]
      exact Array.getElem?_setIfInBounds_self_of_lt (Array.getElem?_eq_some_iff.1 hc).1
    refine ⟨?_, ?_, hidle, fun after r s hr => ?_⟩
    · rw [hs, Semaphore.line_leave]
    · rw [hs, Semaphore.available_leave]
    · have hhist := history_of_opening h
      have hearly : c.task = .none :=
        (custody_of_history hhist).early i c hc (by rw [hp]; rfl)
      have hbefore : .lent i s ∉ path.filterMap Happening.note? :=
        ((recorded_of_history hhist).told i c hc).fresh (by rw [hearly]; rfl) s
      have hnote : Happening.note? ⟨p, e, q⟩ = none := by
        rcases he with rfl | rfl <;> rfl
      rw [List.filterMap_append, List.filterMap_cons, hnote, List.mem_append]
      exact not_or.2 ⟨hbefore, not_lent_of_over hr hc' hover s⟩
  between ho hg hc := idle_or_nobody_waits h ho hg hc

/-- Three calls wait for the lone session. The first of them is abandoned, and the session goes from
the call that has it to the second. -/
def queueRun : List Event :=
  sendingRun ++ [.arrive "g.E()" (.ofMillis 10), .arrive "g.E()" (.ofMillis 10),
    .arrive "g.E()" (.ofMillis 10), .call 1, .call 2, .call 3, .call 1, .call 2, .call 3,
    .abandon 1,
    .session 0 (.received (.ok (some (.text "\x7b\"status\":\x7b\"code\":204\x7d\x7d")))),
    .task 0, .task 0, .task 0, .task 0, .call 2, .call 2, .call 2]

theorem serves_in_order_of_queueRun :
    let path := (Pool.opening loneSession (.ofMillis 0)).happenings queueRun
    ∃ p, (Pool.opening loneSession (.ofMillis 0)).run? queueRun = some p ∧
      ServesInOrder path p ∧ TakenInTurn path ∧ asked path = [0, 1, 2, 3] ∧ given path = [0, 2] ∧
      path.filterMap Happening.takes? = [0, 2] ∧ p.semaphore.waiting = [3] := by
  have hrun : ((Pool.opening loneSession (.ofMillis 0)).run? queueRun).any
      (fun p => p.semaphore.waiting = [3]) = true := by
    decide +kernel
  obtain ⟨p, hp, hwaiting⟩ := (Option.any_eq_true _ _).1 hrun
  exact ⟨p, hp, serves_in_order (course_of_run hp), takenInTurn_of_check (by decide +kernel),
    by decide +kernel, by decide +kernel, by decide +kernel, of_decide_eq_true hwaiting⟩

end Pool

end GraphClient
