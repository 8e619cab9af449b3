import GraphClient.Proofs.Custody
import GraphClient.Proofs.ExchangeRuns

/-!
# Histories

What has happened in a pool since it was opened: the calls, the requests and answers on each
channel, and what became of each session that was lent. A history puts no bound on when time passes,
so it covers every run on the virtual clock and every other interleaving.
-/

namespace GraphClient

lemma filterMap_concat {α β : Type} (f : α → Option β) (l : List α) (a : α) :
    (l ++ [a]).filterMap f = l.filterMap f ++ (f a).toList := by
  rw [List.filterMap_append, List.filterMap_cons, List.filterMap_nil]
  cases f a <;> rfl

/-- A fact about a pool that its state does not tell any longer. -/
inductive Note where
  | called (call : Nat) (start : Instant) (timeout : Duration)
  /-- A call got a session. -/
  | lent (call session : Nat)
  /-- A request begins to go out on the channel of a session. -/
  | asked (session : Nat) (id : Uuid)
  /-- The channel stays open and has not taken the request. -/
  | unsent (session : Nat) (id : Uuid)
  /-- A frame ended the exchange of a request. -/
  | answered (session : Nat) (id : Uuid)
  /-- An error that leaves the channel open ended a request without an answer. -/
  | broken (session : Nat) (id : Uuid)
  /-- The session of a call is idle again. -/
  | returned (call session : Nat)
  /-- The session of a call has been disconnected. -/
  | discarded (call session : Nat)
  /-- An idle session has been disconnected. -/
  | closed (session : Nat)
  deriving DecidableEq

/-- The frame in a message. -/
def Message.response? : Message → Option Response
  | text payload => (Response.ofText payload).toOption
  | binary payload => (Response.ofBytes payload).toOption
  | ping _ | pong _ | close _ => none

/-- The identifier of the request whose exchange a frame ends. -/
def Conversation.answered? (decoder : GraphSON.Decoder) (c : Conversation) (frame : Response) :
    Option Uuid :=
  if (c.exchange.onFrame decoder frame).2.isEnd then some c.exchange.requestId else none

namespace Session

/-- What there is to note about an event of a session. -/
def note? (config : ClientConfig) (s : Nat) (x : Session) (e : Event) : Option Note :=
  match e, x.activity with
  | .claim, .claimingRequest id _ => if x.hasChannel then some (.asked s id) else none
  | .received (.ok (some m)), .receiving c =>
    (m.response?.bind (c.answered? config.decoder)).map (.answered s)
  | .received (.error (.serialization _)), .receiving c => some (.broken s c.exchange.requestId)
  | .sent (some (.serialization _)), .sendingRequest c => some (.unsent s c.exchange.requestId)
  | .sent (some (.serialization _)), a => a.sending?.map (.broken s ·.exchange.requestId)
  | _, _ => none

/-- What a note about a session tells. -/
inductive Noted (config : ClientConfig) (s : Nat) (x : Session) : Event → Note → Prop
  | asked (id : Uuid) (script : String) (hx : x.activity = .claimingRequest id script) :
      Noted config s x .claim (.asked s id)
  | answered (c : Conversation) (m : Message) (id : Uuid) (hx : x.activity = .receiving c)
      (hm : m.response?.bind (c.answered? config.decoder) = some id) :
      Noted config s x (.received (.ok (some m))) (.answered s id)
  | notReceived (c : Conversation) (text : String) (hx : x.activity = .receiving c) :
      Noted config s x (.received (.error (.serialization text))) (.broken s c.exchange.requestId)
  | unsent (c : Conversation) (text : String) (hx : x.activity = .sendingRequest c) :
      Noted config s x (.sent (some (.serialization text))) (.unsent s c.exchange.requestId)
  | notSent (c : Conversation) (text : String) (hx : x.activity.sending? = some c) :
      Noted config s x (.sent (some (.serialization text))) (.broken s c.exchange.requestId)

lemma noted_of_note {config : ClientConfig} {s : Nat} {x : Session} {e : Event} {note : Note}
    (h : x.note? config s e = some note) : x.Noted config s e note := by
  unfold note? at h
  split at h
  · rename_i id script hx
    split at h <;> cases h
    exact .asked id script hx
  · rename_i m c hx
    obtain ⟨id, hm, rfl⟩ := Option.map_eq_some_iff.1 h
    exact .answered c m id hx hm
  · rename_i text c hx
    cases h
    exact .notReceived c text hx
  · rename_i text c hx
    cases h
    exact .unsent c text hx
  · rename_i text _
    obtain ⟨c, hx, rfl⟩ := Option.map_eq_some_iff.1 h
    exact .notSent c text hx
  · cases h

end Session

namespace Pool

/-- What there is to note about the step of a task. -/
def taskNote? (p : Pool) (i : Nat) (c : Call) : Option Note :=
  match c.task with
  | .placing s _ =>
    if p.isOpen ∧ p.sessions[s]?.any (·.isConnected) then some (.returned i s) else none
  | .discarding s _ => some (.discarded i s)
  | _ => none

/-- What there is to note about an event. -/
def note? (p : Pool) (e : Event) : Option Note :=
  match e with
  | .arrive _ timeout => some (.called p.calls.size p.now timeout)
  | .call i => p.calls[i]?.bind fun c =>
    match c.phase with
    | .holding s => some (.lent i s)
    | _ => none
  | .task i => p.calls[i]?.bind (p.taskNote? i)
  | .closer k => p.closers[k]?.bind fun f =>
    match f with
    | .disconnecting s _ => some (.closed s)
    | _ => none
  | .session s e => p.sessions[s]?.bind fun x => x.note? p.config s e
  | _ => none

/-- What a note tells about the pool. -/
inductive Noted (p : Pool) : Event → Note → Prop
  | called (script : String) (timeout : Duration) :
      Noted p (.arrive script timeout) (.called p.calls.size p.now timeout)
  | lent (i : Nat) (c : Call) (s : Nat) (hc : p.calls[i]? = some c) (hp : c.phase = .holding s) :
      Noted p (.call i) (.lent i s)
  | returned (i : Nat) (c : Call) (s : Nat) (x : Session) (outcome : Outcome)
      (hc : p.calls[i]? = some c) (ht : c.task = .placing s outcome)
      (hx : p.sessions[s]? = some x) (hf : x.isConnected = true) (ho : p.isOpen = true) :
      Noted p (.task i) (.returned i s)
  | discarded (i : Nat) (c : Call) (s : Nat) (outcome : Outcome) (hc : p.calls[i]? = some c)
      (ht : c.task = .discarding s outcome) : Noted p (.task i) (.discarded i s)
  | closed (k s : Nat) (rest : List Nat) (hk : p.closers[k]? = some (.disconnecting s rest)) :
      Noted p (.closer k) (.closed s)
  | session (s : Nat) (x : Session) (e : Session.Event) (note : Note)
      (hx : p.sessions[s]? = some x) (hn : x.Noted p.config s e note) :
      Noted p (.session s e) note

lemma noted_of_note {p : Pool} {e : Event} {note : Note} (h : p.note? e = some note) :
    Noted p e note := by
  cases e with
  | arrive script timeout =>
    cases h
    exact .called script timeout
  | call i =>
    obtain ⟨c, hc, h⟩ := Option.bind_eq_some_iff.1 h
    split at h <;> rename_i hp <;> cases h
    exact .lent i c _ hc hp
  | task i =>
    obtain ⟨c, hc, h⟩ := Option.bind_eq_some_iff.1 h
    unfold taskNote? at h
    split at h <;> rename_i ht
    · split at h
      · rename_i hopen
        cases h
        obtain ⟨x, hx, hf⟩ := (Option.any_eq_true _ _).1 hopen.2
        exact .returned i c _ x _ hc ht hx hf hopen.1
      · cases h
    · cases h
      exact .discarded i c _ _ hc ht
    · cases h
  | closer k =>
    obtain ⟨f, hf, h⟩ := Option.bind_eq_some_iff.1 h
    split at h <;> cases h
    exact .closed k _ _ hf
  | session s e =>
    obtain ⟨x, hx, h⟩ := Option.bind_eq_some_iff.1 h
    exact .session s x e note hx (Session.noted_of_note h)
  | _ => cases h

/-- A pool that was opened at an instant, and all that has happened in it since. -/
inductive History (config : ClientConfig) (start : Instant) : List Note → Pool → Prop
  | opening : History config start [] (Pool.opening config start)
  | act {log : List Note} {p q : Pool} {e : Event} (h : History config start log p)
      (he : p.act? e = some q) : History config start (log ++ (p.note? e).toList) q
  | wait {log : List Note} {p : Pool} {later : Instant} (h : History config start log p)
      (hl : p.now ≤ later) : History config start log { p with now := later }

/-- What there is to note about a run on the virtual clock. -/
def notes (p : Pool) : List Event → List Note
  | [] => []
  | e :: events =>
    match p.step? e with
    | some q => (p.note? e).toList ++ q.notes events
    | none => []

variable {config : ClientConfig} {start : Instant} {log : List Note} {p q : Pool}

lemma history_of_step {e : Event} (h : History config start log p) (he : p.step? e = some q) :
    History config start (log ++ (p.note? e).toList) q := by
  cases e with
  | advance later =>
    simp only [step?] at he
    split at he
    · rename_i hl
      cases he
      have hnote : p.note? (.advance later) = none := rfl
      rw [hnote, Option.toList_none, List.append_nil]
      exact .wait h (Nat.le_of_lt hl.1)
    · cases he
  | _ => exact .act h he

/-- Every run on the virtual clock is a history. -/
theorem history_of_run {events : List Event} (h : History config start log p)
    (hr : p.run? events = some q) : History config start (log ++ p.notes events) q := by
  induction events generalizing log p with
  | nil =>
    cases hr
    simpa [notes] using h
  | cons e events ih =>
    obtain ⟨r, he, hr⟩ := Option.bind_eq_some_iff.1 hr
    have hq := ih (history_of_step h he) hr
    rw [notes, he]
    rwa [List.append_assoc] at hq

/-- What holds whenever a note is written holds of every note and the notes before it. -/
lemma forall_notes {P : List Note → Note → Prop} (h : History config start log p)
    (hP : ∀ (log : List Note) (p : Pool) (e : Event) (note : Note), History config start log p →
      p.note? e = some note → P log note) :
    ∀ (before : List Note) (note : Note), before ++ [note] <+: log → P before note := by
  induction h with
  | opening =>
    intro before note hpre
    have hlength := hpre.length_le
    rw [List.length_append, List.length_singleton, List.length_nil] at hlength
    omega
  | @act log p q e h _ ih =>
    intro before note hpre
    cases hn : p.note? e with
    | none =>
      rw [hn, Option.toList_none, List.append_nil] at hpre
      exact ih before note hpre
    | some note' =>
      rw [hn, Option.toList_some, List.prefix_concat_iff] at hpre
      rcases hpre with heq | hpre
      · obtain ⟨rfl, hnote⟩ := List.append_inj' heq rfl
        cases hnote
        exact hP before p e note h hn
      · exact ih before note hpre
  | wait _ _ ih => exact ih

theorem custody_of_history (h : History config start log p) : Custody p := by
  induction h with
  | opening => exact custody_opening config start
  | act _ he ih => exact custody_of_move ih (move_of_act he)
  | wait _ _ ih => exact ⟨ih.size, ih.nodup, ih.bound, ih.admits, ih.early⟩

lemma config_of_history (h : History config start log p) : p.config = config := by
  induction h with
  | opening => rfl
  | act _ he ih => rw [config_of_move (move_of_act he), ih]
  | wait _ _ ih => exact ih

end Pool

end GraphClient
