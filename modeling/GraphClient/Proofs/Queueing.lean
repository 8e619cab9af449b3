import GraphClient.Proofs.Channels
import GraphClient.Proofs.Requests

/-!
# The queue for sessions

Who asks for a permit begins to wait, and permits are given out in the order in which they were
asked for. A permit stands for an idle session, so that whoever was given one gets a session without
waiting for anybody else; whoever leaves the queue takes none and leaves the others in their order.
-/

namespace GraphClient

namespace Semaphore

/-- Those who have asked and not gone on, in the order of their turns. -/
def line (s : Semaphore) : List Nat := s.granted ++ s.waiting

/-- Those who are given a permit between one state and the next. -/
def newly (s s' : Semaphore) : List Nat := s'.granted.filter fun i => i ∉ s.granted

section Line

variable {s s' : Semaphore} {i j : Nat}

lemma mem_line_ask : j ∈ (s.ask i).line ↔ j ∈ s.line ∨ j = i := by
  obtain ⟨permits, waiting, granted, closed⟩ := s
  cases permits with
  | zero => simp [ask, line, or_assoc]
  | succ permits => simp [ask, line, or_right_comm, or_assoc]

lemma line_release : s.release.line = s.line := by
  obtain ⟨permits, waiting, granted, closed⟩ := s
  cases waiting with
  | nil => rfl
  | cons j rest => exact List.append_assoc granted [j] rest

lemma line_consume (hi : i ∈ s.granted) : (s.consume i).line = s.line.erase i :=
  (List.erase_append_left s.waiting hi).symm

/-- Who leaves the line leaves the others in their order. -/
lemma line_leave : (s.leave i).line = s.line.erase i := by
  unfold leave
  split
  · rename_i hi
    rw [line_release, line_consume hi]
  · rename_i hi
    exact (List.erase_append_right s.waiting hi).symm

lemma newly_of_subset (h : ∀ j ∈ s'.granted, j ∈ s.granted) : s.newly s' = [] := by
  rw [newly, List.filter_eq_nil_iff]
  intro j hj
  simpa using h j hj

lemma newly_concat (h : s'.granted = s.granted ++ [i]) (hi : i ∉ s.granted) :
    s.newly s' = [i] := by
  rw [newly, h, List.filter_append, List.filter_eq_nil_iff.2 fun j hj => by simpa using hj]
  simp [hi]

/-- Whoever has used up a permit is not given another one at once. -/
lemma newly_consume (hi : i ∉ s'.granted) : (s.consume i).newly s' = s.newly s' := by
  apply List.filter_congr
  intro j hj
  have hji : j ≠ i := by
    rintro rfl
    exact hi hj
  simp only [consume, List.mem_erase_of_ne hji]

end Line

/-- A semaphore that was asked by some, in this order, and has given permits to others of them, in
this order. -/
structure InOrder (asked given : List Nat) (s : Semaphore) : Prop where
  order : (given ++ s.waiting).Sublist asked
  once : asked.Nodup
  granted : s.granted.Sublist given
  free : 0 < s.permits → s.waiting = []

namespace InOrder

variable {asked given : List Nat} {s : Semaphore} {i : Nat}

lemma nodup (h : InOrder asked given s) : (given ++ s.waiting).Nodup := h.order.nodup h.once

lemma nodup_line (h : InOrder asked given s) : s.line.Nodup :=
  (h.granted.append (List.Sublist.refl s.waiting)).nodup h.nodup

lemma mem_of_line (h : InOrder asked given s) (hi : i ∈ s.line) : i ∈ asked :=
  (h.granted.append (List.Sublist.refl s.waiting)).trans h.order |>.subset hi

lemma ask (h : InOrder asked given s) (hi : i ∉ asked) :
    InOrder (asked ++ [i]) (given ++ s.newly (s.ask i)) (s.ask i) := by
  have hgranted : i ∉ s.granted := fun hg => hi (h.mem_of_line (List.mem_append_left _ hg))
  have honce : (asked ++ [i]).Nodup := by
    rw [List.nodup_append]
    exact ⟨h.once, List.nodup_singleton i, fun a ha b hb => by
      rw [List.mem_singleton] at hb
      subst hb
      exact fun heq => hi (heq ▸ ha)⟩
  have hsingle : [i].Sublist [i] := List.Sublist.refl [i]
  unfold Semaphore.ask
  split
  · -- no permit is free, and the caller is the last to wait
    rename_i hpermits
    have hnew : s.newly { s with waiting := s.waiting ++ [i] } = [] :=
      newly_of_subset fun _ hj => hj
    rw [hnew, List.append_nil]
    refine ⟨?_, honce, h.granted, fun hpos => ?_⟩
    · rw [← List.append_assoc]
      exact h.order.append hsingle
    · change 0 < s.permits at hpos
      omega
  · rename_i permits hpermits
    have hnobody : s.waiting = [] := h.free (by omega)
    have hnew : s.newly { s with permits, granted := s.granted ++ [i] } = [i] :=
      newly_concat rfl hgranted
    have horder := h.order
    rw [hnobody, List.append_nil] at horder
    rw [hnew]
    refine ⟨?_, honce, h.granted.append hsingle, fun _ => hnobody⟩
    rw [hnobody, List.append_nil]
    exact horder.append hsingle

/-- A permit that is released goes to the first who waits. -/
lemma release (h : InOrder asked given s) :
    InOrder asked (given ++ s.newly s.release) s.release := by
  unfold Semaphore.release
  split
  · rename_i hnobody
    have hnew : s.newly { s with permits := s.permits + 1 } = [] :=
      newly_of_subset fun _ hj => hj
    rw [hnew, List.append_nil]
    exact ⟨h.order, h.once, h.granted, fun _ => hnobody⟩
  · rename_i j rest hwaiting
    have hline := h.nodup_line
    have horder := h.order
    rw [line, hwaiting, List.nodup_append] at hline
    rw [hwaiting] at horder
    have hj : j ∉ s.granted := fun hg => hline.2.2 j hg j List.mem_cons_self rfl
    have hnew : s.newly { s with waiting := rest, granted := s.granted ++ [j] } = [j] :=
      newly_concat rfl hj
    rw [hnew]
    refine ⟨?_, h.once, h.granted.append (List.Sublist.refl [j]), fun hpos => ?_⟩
    · rw [List.append_assoc]
      exact horder
    · have hnobody := h.free hpos
      rw [hwaiting] at hnobody
      cases hnobody

lemma consume (h : InOrder asked given s) (i : Nat) :
    InOrder asked (given ++ s.newly (s.consume i)) (s.consume i) := by
  have hnew : s.newly (s.consume i) = [] := newly_of_subset fun _ hj => List.mem_of_mem_erase hj
  rw [hnew, List.append_nil]
  exact ⟨h.order, h.once, List.erase_sublist.trans h.granted, h.free⟩

/-- Whoever leaves the line changes nobody's turn: a permit that it was given goes to the next. -/
lemma leave (h : InOrder asked given s) (i : Nat) :
    InOrder asked (given ++ s.newly (s.leave i)) (s.leave i) := by
  unfold Semaphore.leave
  split
  · rename_i hi
    have hgone : i ∉ (s.consume i).release.line := by
      rw [line_release, line_consume hi, h.nodup_line.mem_erase_iff]
      exact fun hmem => hmem.1 rfl
    have hpassed := (h.consume i).release
    have hnew : s.newly (s.consume i) = [] := newly_of_subset fun _ hj => List.mem_of_mem_erase hj
    rw [hnew, List.append_nil,
      newly_consume fun hg => hgone (List.mem_append_left _ hg)] at hpassed
    exact hpassed
  · have hnew : s.newly { s with waiting := s.waiting.erase i } = [] :=
      newly_of_subset fun _ hj => hj
    rw [hnew, List.append_nil]
    refine ⟨(List.Sublist.append (List.Sublist.refl given) List.erase_sublist).trans h.order,
      h.once, h.granted, fun hpos => ?_⟩
    change s.waiting.erase i = []
    rw [h.free hpos]
    rfl

lemma close (h : InOrder asked given s) : InOrder asked given s.close :=
  ⟨h.order, h.once, h.granted, h.free⟩

end InOrder

end Semaphore

namespace CallPhase

/-- The caller has not asked for a permit. -/
def isNew : CallPhase → Bool
  | arrived | admitted => true
  | _ => false

def isWaiting : CallPhase → Bool
  | waiting => true
  | _ => false

/-- The caller has asked for a permit and has not taken a session. -/
def isComing : CallPhase → Bool
  | waiting | permitted => true
  | _ => false

/-- The caller has used up its permit, and its task has not begun. -/
def isServed : CallPhase → Bool
  | permitted | holding _ => true
  | _ => false

lemma of_isOver {phase : CallPhase} (h : phase.isOver = true) : phase.isNew = false ∧
    phase.isWaiting = false ∧ phase.isComing = false ∧ phase.isServed = false := by
  cases phase <;> simp_all [isOver, isNew, isWaiting, isComing, isServed]

/-- A phase that can come after another: nobody asks twice, or comes for a session anew without
asking, or comes back. -/
structure Follows (before after : CallPhase) : Prop where
  isNew : after.isNew = true → before.isNew = true
  isComing : after.isComing = true → before.isComing = true ∨ before.isNew = true
  isOver : before.isOver = true → after.isOver = true

lemma follows_self {phase : CallPhase} : phase.Follows phase := ⟨id, .inl, id⟩

end CallPhase

namespace Happening

/-- The caller that begins to wait with this event. -/
def asked (h : Happening) : List Nat :=
  match h.event with
  | .call i => if h.after.calls[i]?.any (·.phase.isWaiting) then [i] else []
  | _ => []

/-- The callers that are given a permit with this event. -/
def given (h : Happening) : List Nat := h.before.semaphore.newly h.after.semaphore

end Happening

namespace Pool

/-- The callers that have begun to wait, in order. -/
def asked (path : List Happening) : List Nat := path.flatMap Happening.asked

/-- The callers that have been given a permit, in order. -/
def given (path : List Happening) : List Nat := path.flatMap Happening.given

/-- What a move does to the queue, with the callers that begin to wait. -/
inductive Shuffle (p q : Pool) : List Nat → Prop
  | ask (i : Nat) (c : Call) (hc : p.calls[i]? = some c) (hp : c.phase = .admitted)
      (hq : q.calls = p.calls.setIfInBounds i { c with phase := .waiting })
      (hs : q.semaphore = p.semaphore.ask i) : Shuffle p q [i]
  | permit (i : Nat) (c : Call) (hc : p.calls[i]? = some c) (hp : c.phase = .waiting)
      (hg : i ∈ p.semaphore.granted)
      (hq : q.calls = p.calls.setIfInBounds i { c with phase := .permitted })
      (hs : q.semaphore = p.semaphore.consume i) : Shuffle p q []
  | leave (i : Nat) (c : Call) (phase : CallPhase) (hc : p.calls[i]? = some c)
      (hp : c.phase = .waiting) (ho : phase.isOver = true)
      (hq : q.calls = p.calls.setIfInBounds i { c with phase })
      (hs : q.semaphore = p.semaphore.leave i) : Shuffle p q []
  | repay (i : Nat) (c : Call) (task : TaskPhase) (hc : p.calls[i]? = some c)
      (hq : q.calls = p.calls.setIfInBounds i { c with task })
      (hs : q.semaphore = p.semaphore.release) : Shuffle p q []
  | goOn (i : Nat) (c c' : Call) (hc : p.calls[i]? = some c)
      (hw : c'.phase.isWaiting = c.phase.isWaiting)
      (hs' : c'.phase.isServed = true → c.phase.isServed = true) (hf : c.phase.Follows c'.phase)
      (hq : q.calls = p.calls.setIfInBounds i c')
      (hs : q.semaphore = p.semaphore ∨ q.semaphore = p.semaphore.close) : Shuffle p q []
  | arrive (c : Call) (hp : c.phase = .arrived) (hq : q.calls = p.calls.push c)
      (hs : q.semaphore = p.semaphore) : Shuffle p q []
  | other (hq : q.calls = p.calls)
      (hs : q.semaphore = p.semaphore ∨ q.semaphore = p.semaphore.close) : Shuffle p q []

variable {config : ClientConfig} {start : Instant} {p q : Pool} {path after : List Happening}

lemma asked_call {i : Nat} {c c' : Call} (hc : p.calls[i]? = some c)
    (hq : q.calls = p.calls.setIfInBounds i c') :
    Happening.asked ⟨p, .call i, q⟩ = if c'.phase.isWaiting then [i] else [] := by
  have hlt : i < p.calls.size := (Array.getElem?_eq_some_iff.1 hc).1
  simp [Happening.asked, hq, hlt]

lemma shuffle_of_call {i : Nat} {c c' : Call} (hc : p.calls[i]? = some c)
    (hq : q.calls = p.calls.setIfInBounds i c') (hw' : c'.phase.isWaiting = false)
    (hs : Shuffle p q []) : Shuffle p q (Happening.asked ⟨p, .call i, q⟩) := by
  rw [asked_call hc hq, hw']
  exact hs

/-- The step of a task that gives no permit back. -/
lemma shuffle_of_task {i : Nat} {c : Call} {task : TaskPhase} (hc : p.calls[i]? = some c)
    (hq : q.calls = p.calls.setIfInBounds i { c with task })
    (hs : q.semaphore = p.semaphore ∨ q.semaphore = p.semaphore.close) : Shuffle p q [] :=
  .goOn i c { c with task } hc rfl id CallPhase.follows_self hq hs

/-- What every move does to the queue. -/
theorem shuffle_of_move {e : Event} (h : Move p e q) :
    Shuffle p q (Happening.asked ⟨p, e, q⟩) := by
  cases h with
  | ask i c hc hp =>
    rw [asked_call hc rfl]
    exact .ask i c hc hp rfl rfl
  | permit i c hc hp hs hg =>
    exact shuffle_of_call hc rfl rfl (.permit i c hc hp hg rfl rfl)
  | giveUp i c hc hp => exact shuffle_of_call hc rfl rfl (.leave i c _ hc hp rfl rfl rfl)
  | expireWaiting i c hc hp | abandonWaiting i c hc hp => exact .leave i c _ hc hp rfl rfl rfl
  | repay i c outcome hc => exact .repay i c _ hc rfl rfl
  | arrive script timeout => exact .arrive _ rfl rfl rfl
  | enter i c hc hp | turnAway i c hc hp | refuse i c hc hp | miss i c hc hp | take i c _ _ hc hp
  | lend i c _ hc hp | deliver i c _ hc hp =>
    refine shuffle_of_call hc rfl rfl (.goOn i c _ hc ?_ ?_ ⟨?_, ?_, ?_⟩ rfl (.inl rfl)) <;>
      rw [hp] <;> first | rfl | exact fun _ => rfl | exact nofun
  | expireRunning i c hc hp | abandonEarly i c hc hp | abandonRunning i c hc hp =>
    refine .goOn i c _ hc ?_ ?_ ⟨?_, ?_, ?_⟩ rfl (.inl rfl) <;> rw [hp] <;>
      first | rfl | exact fun _ => rfl | exact nofun
  | begin i _ c _ _ hc | settle i c _ _ _ hc | lapse i c _ _ hc | uncount i c _ _ hc
  | putBack i c _ _ _ hc | reject i c _ _ _ hc | drop i c _ _ _ hc | drain i c _ _ hc =>
    exact shuffle_of_task hc rfl (.inl rfl)
  | sealUp i c outcome hc => exact shuffle_of_task hc rfl (.inr rfl)
  | lock => exact .other rfl (.inr rfl)
  | connected | close | shut | allClosed | endNext | endOne | session => exact .other rfl (.inl rfl)

/-- The queue, as the course of the pool tells it. -/
structure Queued (path : List Happening) (p : Pool) : Prop where
  inOrder : p.semaphore.InOrder (asked path) (given path)
  known : ∀ i ∈ asked path, ∃ c, p.calls[i]? = some c ∧ c.phase.isNew = false
  waits : ∀ (i : Nat) (c : Call), p.calls[i]? = some c →
    (c.phase.isWaiting = true ↔ i ∈ p.semaphore.line)
  served : ∀ (i : Nat) (c : Call), p.calls[i]? = some c → c.phase.isServed = true → i ∈ given path

lemma asked_concat (h : Happening) : asked (path ++ [h]) = asked path ++ h.asked := by
  rw [asked, asked, List.flatMap_append, List.flatMap_singleton]

lemma given_concat (h : Happening) : given (path ++ [h]) = given path ++ h.given := by
  rw [given, given, List.flatMap_append, List.flatMap_singleton]

lemma not_mem_of_isNew (hq : Queued path p) {i : Nat} {c : Call} (hc : p.calls[i]? = some c)
    (hn : c.phase.isNew = true) : i ∉ asked path := by
  intro hi
  obtain ⟨c', hc', hn'⟩ := hq.known i hi
  rw [hc] at hc'
  cases hc'
  rw [hn] at hn'
  cases hn'

lemma inOrder_of_same {asks gives : List Nat} {s : Semaphore}
    (h : p.semaphore.InOrder asks gives) (hs : s = p.semaphore ∨ s = p.semaphore.close) :
    s.InOrder asks (gives ++ p.semaphore.newly s) := by
  have hnew : p.semaphore.newly s = [] := by
    rcases hs with rfl | rfl <;> exact Semaphore.newly_of_subset fun _ hj => hj
  rw [hnew, List.append_nil]
  rcases hs with rfl | rfl
  · exact h
  · exact h.close

lemma inOrder_of_shuffle {asks : List Nat} (hp : Queued path p) (h : Shuffle p q asks) :
    q.semaphore.InOrder (asked path ++ asks) (given path ++ p.semaphore.newly q.semaphore) := by
  cases h with
  | ask i c hc hph _ hs =>
    rw [hs]
    exact hp.inOrder.ask (not_mem_of_isNew hp hc (by rw [hph]; rfl))
  | permit i _ _ _ _ _ hs =>
    rw [hs, List.append_nil]
    exact hp.inOrder.consume i
  | leave i _ _ _ _ _ _ hs =>
    rw [hs, List.append_nil]
    exact hp.inOrder.leave i
  | repay _ _ _ _ _ hs =>
    rw [hs, List.append_nil]
    exact hp.inOrder.release
  | goOn _ _ _ _ _ _ _ _ hs | other _ hs =>
    rw [List.append_nil]
    exact inOrder_of_same hp.inOrder hs
  | arrive _ _ _ hs =>
    rw [List.append_nil]
    exact inOrder_of_same hp.inOrder (.inl hs)

lemma line_of_same {s : Semaphore} (hs : s = p.semaphore ∨ s = p.semaphore.close) :
    s.line = p.semaphore.line := by
  rcases hs with rfl | rfl <;> rfl

/-- Every call goes on from its phase to one that can follow. -/
lemma follows_of_shuffle {asks : List Nat} (h : Shuffle p q asks) {i : Nat} {c : Call}
    (hc : p.calls[i]? = some c) : ∃ c', q.calls[i]? = some c' ∧ c.phase.Follows c'.phase := by
  have hset {j : Nat} {b b' : Call} (hb : p.calls[j]? = some b)
      (hq : q.calls = p.calls.setIfInBounds j b') (hf : b.phase.Follows b'.phase) :
      ∃ c', q.calls[i]? = some c' ∧ c.phase.Follows c'.phase := by
    rcases call_after_set hc hb hq with ⟨rfl, hc'⟩ | ⟨-, hc'⟩
    · exact ⟨b', hc', hf⟩
    · exact ⟨c, hc', CallPhase.follows_self⟩
  cases h with
  | ask _ _ hb hp hq => exact hset hb hq (by rw [hp]; exact ⟨nofun, fun _ => .inr rfl, nofun⟩)
  | permit _ _ hb hp _ hq => exact hset hb hq (by rw [hp]; exact ⟨nofun, fun _ => .inl rfl, nofun⟩)
  | leave _ b phase hb _ ho hq =>
    obtain ⟨hnew, -, hcoming, -⟩ := CallPhase.of_isOver ho
    exact hset hb hq ⟨fun h => absurd (hnew.symm.trans h) nofun,
      fun h => absurd (hcoming.symm.trans h) nofun, fun _ => ho⟩
  | repay _ _ _ hb hq => exact hset hb hq CallPhase.follows_self
  | goOn _ _ _ hb _ _ hf hq => exact hset hb hq hf
  | arrive c' _ hq =>
    have hlt : i < p.calls.size := (Array.getElem?_eq_some_iff.1 hc).1
    exact ⟨c, by rw [hq, Array.getElem?_push, if_neg (by omega), hc], CallPhase.follows_self⟩
  | other hq => exact ⟨c, by rw [hq, hc], CallPhase.follows_self⟩

lemma known_of_asked {asks : List Nat} (h : Shuffle p q asks) :
    ∀ i ∈ asks, ∃ c, q.calls[i]? = some c ∧ c.phase.isNew = false := by
  intro i hi
  cases h with
  | ask j c hc _ hq =>
    cases List.mem_singleton.1 hi
    have hlt : i < p.calls.size := (Array.getElem?_eq_some_iff.1 hc).1
    exact ⟨_, by rw [hq, Array.getElem?_setIfInBounds_self_of_lt hlt], rfl⟩
  | _ => cases hi

lemma waits_of_shuffle {asks : List Nat} (hp : Queued path p) (h : Shuffle p q asks) :
    ∀ (i : Nat) (c : Call), q.calls[i]? = some c →
      (c.phase.isWaiting = true ↔ i ∈ q.semaphore.line) := by
  intro i c hc
  have hnodup := hp.inOrder.nodup_line
  cases h with
  | ask j b hb hph hq hs =>
    rw [hs, Semaphore.mem_line_ask]
    rcases call_of_set hq hc with ⟨rfl, rfl⟩ | ⟨hij, hc⟩
    · simp [CallPhase.isWaiting]
    · rw [hp.waits i c hc]
      simp [hij]
  | permit j b hb hph hg hq hs =>
    rw [hs, Semaphore.line_consume hg, hnodup.mem_erase_iff]
    rcases call_of_set hq hc with ⟨rfl, rfl⟩ | ⟨hij, hc⟩
    · simp [CallPhase.isWaiting]
    · rw [hp.waits i c hc]
      simp [hij]
  | leave j b phase hb hph ho hq hs =>
    rw [hs, Semaphore.line_leave, hnodup.mem_erase_iff]
    rcases call_of_set hq hc with ⟨rfl, rfl⟩ | ⟨hij, hc⟩
    · simp [(CallPhase.of_isOver ho).2.1]
    · rw [hp.waits i c hc]
      simp [hij]
  | repay j b task hb hq hs =>
    rw [hs, Semaphore.line_release]
    rcases call_of_set hq hc with ⟨rfl, rfl⟩ | ⟨-, hc⟩
    · exact hp.waits i b hb
    · exact hp.waits i c hc
  | goOn j b b' hb hw _ _ hq hs =>
    rw [line_of_same hs]
    rcases call_of_set hq hc with ⟨rfl, rfl⟩ | ⟨-, hc⟩
    · rw [hw]
      exact hp.waits i b hb
    · exact hp.waits i c hc
  | arrive b hph hq hs =>
    rw [hs]
    rw [hq, Array.getElem?_push] at hc
    split at hc
    · rename_i hi
      cases hc
      have hout : i ∉ p.semaphore.line := by
        intro hi'
        obtain ⟨b', hb', -⟩ := hp.known i (hp.inOrder.mem_of_line hi')
        have hlt := (Array.getElem?_eq_some_iff.1 hb').1
        omega
      simp [hph, CallPhase.isWaiting, hout]
    · exact hp.waits i c hc
  | other hq hs =>
    rw [hq] at hc
    rw [line_of_same hs]
    exact hp.waits i c hc

lemma served_of_shuffle {asks : List Nat} (hp : Queued path p) (h : Shuffle p q asks) :
    ∀ (i : Nat) (c : Call), q.calls[i]? = some c → c.phase.isServed = true → i ∈ given path := by
  intro i c hc hserved
  have hset {j : Nat} {b' : Call} (hq : q.calls = p.calls.setIfInBounds j b')
      (hnew : b'.phase.isServed = true → j ∈ given path) : i ∈ given path := by
    rcases call_of_set hq hc with ⟨rfl, rfl⟩ | ⟨-, hc⟩
    · exact hnew hserved
    · exact hp.served i c hc hserved
  cases h with
  | ask _ _ _ _ hq => exact hset hq nofun
  | permit _ _ _ _ hg hq => exact hset hq fun _ => hp.inOrder.granted.subset hg
  | leave _ _ phase _ _ ho hq =>
    exact hset hq fun hnew => absurd ((CallPhase.of_isOver ho).2.2.2.symm.trans hnew) nofun
  | repay j b _ hb hq => exact hset hq (hp.served j b hb)
  | goOn j b _ hb _ hs' _ hq => exact hset hq fun hnew => hp.served j b hb (hs' hnew)
  | arrive b hph hq =>
    rw [hq, Array.getElem?_push] at hc
    split at hc
    · cases hc
      rw [hph] at hserved
      cases hserved
    · exact hp.served i c hc hserved
  | other hq =>
    rw [hq] at hc
    exact hp.served i c hc hserved

theorem queued_of_act {e : Event} (hp : Queued path p) (he : p.act? e = some q) :
    Queued (path ++ [⟨p, e, q⟩]) q := by
  have h : Shuffle p q (Happening.asked ⟨p, e, q⟩) := shuffle_of_move (move_of_act he)
  refine ⟨?_, ?_, waits_of_shuffle hp h, ?_⟩
  · rw [asked_concat, given_concat]
    exact inOrder_of_shuffle hp h
  · intro i hi
    rw [asked_concat, List.mem_append] at hi
    rcases hi with hi | hi
    · obtain ⟨c, hc, hn⟩ := hp.known i hi
      obtain ⟨c', hc', hf⟩ := follows_of_shuffle h hc
      exact ⟨c', hc', Bool.eq_false_iff.2 fun hnew => by rw [hf.isNew hnew] at hn; cases hn⟩
    · exact known_of_asked h i hi
  · intro i c hc hs
    rw [given_concat]
    exact List.mem_append_left _ (served_of_shuffle hp h i c hc hs)

theorem queued_of_course (h : Course (Pool.opening config start) path p) : Queued path p := by
  induction h with
  | start =>
    refine ⟨⟨List.Sublist.refl [], List.nodup_nil, List.Sublist.refl [], fun _ => rfl⟩, nofun, ?_,
      ?_⟩
    · intro i c hc
      simp [Pool.opening] at hc
    · intro i c hc
      simp [Pool.opening] at hc
  | act _ he ih => exact queued_of_act ih he
  | wait _ _ ih => exact ⟨ih.inOrder, ih.known, ih.waits, ih.served⟩

end Pool

end GraphClient
