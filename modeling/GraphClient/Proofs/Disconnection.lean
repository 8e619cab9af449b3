import GraphClient.Proofs.Keepalives

/-!
# Sessions and their channels from call to call

If every request and every disconnect runs to completion, then between them a session is either idle
with its channel or disconnected without it. The first fatal error or disconnect closes the channel,
and nothing is sent or received afterwards.
-/

namespace GraphClient

lemma ClientError.isFatal_iff (e : ClientError) :
    e.isFatal = true ↔ e.kind = .disconnected ∨ e.kind = .protocol := by
  cases e with
  | mk kind message => cases kind <;> simp [isFatal]

namespace Activity

/-- No call is in progress: the last one has ended, or there was none. -/
def isSettled : Activity → Bool
  | resting | finished _ | ended => true
  | _ => false

end Activity

namespace Session

/-- The user drops its request. -/
def Event.isCancel : Event → Bool
  | cancel => true
  | _ => false

/-- No request was dropped. -/
def Uncancelled (path : List Change) : Prop := ∀ c ∈ path, c.event.isCancel = false

/-- The session can serve a request. -/
def IsIdle (x : Session) : Prop := x.state = .idle ∧ x.hasChannel = true

/-- The session has lost its channel for good. -/
def IsCutOff (x : Session) : Prop := x.state = .disconnected ∧ x.hasChannel = false

/-- The channel is there as what the session does needs it and as its state shows. -/
def Agrees (x : Session) : Prop :=
  match x.activity with
  | .opening _ => x.hasChannel = false
  | .resting | .claimingRequest _ _ | .claimingEnd => x.IsIdle ∨ x.IsCutOff
  | .sendingRequest _ | .receiving _ | .sendingPong _ _ | .sendingAnswer _ _ => x.hasChannel = true
  | .closingAfter e => e.isFatal = true ∧ x.hasChannel = false
  | .closing => x.hasChannel = false
  | .finished (.error e) => if e.isFatal then x.IsCutOff else x.IsIdle
  | .finished (.ok _) => x.IsIdle
  | .ended => x.IsCutOff

variable {config : ClientConfig} {start now : Instant} {id : Nat} {x y z : Session} {e : Event}
variable {path after : List Change}

lemma Agrees.talks (hx : x.hasChannel = true) (h : x.Talks y) : y.Agrees := by
  cases h with
  | @goesOn c state a ha =>
    cases a <;> first | exact hx | cases ha
  | breaks state e he => exact ⟨he, rfl⟩
  | finishes outcome ho =>
    cases outcome with
    | error e => simp [Agrees, ho e rfl, IsIdle, hx]
    | ok values => exact ⟨rfl, hx⟩

lemma Agrees.hasChannel {c : Conversation} (h : x.Agrees)
    (hc : x.activity.conversation? = some c) : x.hasChannel = true := by
  unfold Agrees at h
  cases hx : x.activity <;> simp_all [Activity.conversation?]

lemma agrees_of_proceeds (hx : x.Agrees) (h : x.Proceeds config now e y) : y.Agrees := by
  cases h with
  | opened _ success ha =>
    cases success with
    | true => exact .inl ⟨rfl, rfl⟩
    | false => exact .inr ⟨rfl, rfl⟩
  | openExpired => exact .inr ⟨rfl, rfl⟩
  | claimRequest _ _ _ _ hc => exact hc
  | claimNothing _ _ _ _ hc => exact ⟨rfl, hc⟩
  | claimEnd => rfl
  | claimEnded _ _ hc => exact ⟨rfl, hc⟩
  | sentRequest c ha | sentPong c _ ha | sentAnswer c _ ha =>
    have hc : x.hasChannel = true := hx.hasChannel (c := c) (by rw [ha]; rfl)
    exact hc
  | sendFailed c _ ha =>
    exact .talks (hx.hasChannel (Activity.conversation_of_sending ha)) (talks_of_conclude x.state _)
  | received c result ha =>
    exact .talks (hx.hasChannel (c := c) (by rw [ha]; rfl)) (talks_of_received result)
  | closedAfter e ha =>
    simp only [Agrees, ha] at hx
    simp [Agrees, IsCutOff, hx]
  | closedEnd ha =>
    simp only [Agrees, ha] at hx
    exact ⟨rfl, hx⟩
  | keepalive => exact hx

lemma agrees_of_directed (hx : x.Agrees) (he : e.isCancel = false) (h : x.Directed e y) :
    y.Agrees := by
  cases h with
  | submit id script ha =>
    simp only [Agrees, ha] at hx
    exact hx
  | disconnect ha =>
    simp only [Agrees, ha] at hx
    exact hx
  | cancel => cases he
  | collect ha =>
    rcases ha with ⟨outcome, ha⟩ | ha
    · cases outcome with
      | ok values =>
        simp only [Agrees, ha] at hx
        exact .inl hx
      | error e =>
        simp only [Agrees, ha] at hx
        split at hx
        · exact .inr hx
        · exact .inl hx
    · simp only [Agrees, ha] at hx
      exact .inr hx

lemma agrees_of_step (hx : x.Agrees) (he : e.isCancel = false) (h : x.step? config now e = some y) :
    y.Agrees := by
  rcases proceeds_or_directed h with hp | hd
  · exact agrees_of_proceeds hx hp
  · exact agrees_of_directed hx he hd

lemma uncancelled_concat {c : Change} :
    Uncancelled (path ++ [c]) ↔ Uncancelled path ∧ c.event.isCancel = false := by
  simp [Uncancelled, or_imp, forall_and]

lemma agrees_of_course (h : Course config (opening config id start) path y)
    (hc : Uncancelled path) : y.Agrees := by
  induction h with
  | start => rfl
  | step _ hs ih =>
    rw [uncancelled_concat] at hc
    exact agrees_of_step (ih hc.1) hc.2 hs

lemma Agrees.settled (h : x.Agrees) (hx : x.activity.isSettled = true) : x.IsIdle ∨ x.IsCutOff := by
  unfold Agrees at h
  cases ha : x.activity with
  | finished outcome =>
    cases outcome with
    | ok values =>
      rw [ha] at h
      exact .inl h
    | error e =>
      simp only [ha] at h
      split at h
      · exact .inr h
      · exact .inl h
  | resting =>
    rw [ha] at h
    exact h
  | ended =>
    rw [ha] at h
    exact .inr h
  | _ => simp [ha, Activity.isSettled] at hx

lemma isConnected_iff (hx : x.IsIdle ∨ x.IsCutOff) :
    x.isConnected = true ↔ x.hasChannel = true := by
  rcases hx with ⟨hs, hc⟩ | ⟨hs, hc⟩ <;> simp [isConnected, hs, hc]

lemma isCutOff_of_disconnected (hx : x.IsIdle ∨ x.IsCutOff) (hd : x.state = .disconnected) :
    x.IsCutOff := by
  rcases hx with ⟨hs, -⟩ | hx
  · rw [hd] at hs
    cases hs
  · exact hx

/-- How a request left the session, by its outcome. -/
lemma state_of_finished (h : x.Agrees) {outcome : Outcome} (hx : x.activity = .finished outcome) :
    (x.state = .disconnected ↔
      ∃ e, outcome = .error e ∧ (e.kind = .disconnected ∨ e.kind = .protocol)) ∧
    (x.state = .disconnected ∨ x.state = .idle) := by
  cases outcome with
  | ok values =>
    simp only [Agrees, hx] at h
    simp [h.1]
  | error e =>
    simp only [Agrees, hx] at h
    split at h
    · rename_i hf
      exact ⟨⟨fun _ => ⟨e, rfl, e.isFatal_iff.1 hf⟩, fun _ => h.1⟩, .inl h.1⟩
    · rename_i hf
      refine ⟨⟨fun hd => ?_, ?_⟩, .inr h.1⟩
      · rw [h.1] at hd
        cases hd
      · rintro ⟨e', he', hkind⟩
        cases he'
        exact absurd (e.isFatal_iff.2 hkind) hf

/-- The session is cut off, and nothing goes on between it and its server. -/
structure IsSilent (x : Session) : Prop where
  cutOff : x.IsCutOff
  stage : x.activity.stage ≠ .opening
  still : x.activity.isOperation = false
  quiet : x.keepalive.isPinging = false

lemma pingsAlone_of_quiet (h : x.keepalive.isPinging = false) : x.PingsAlone := by
  intro hk
  rw [h] at hk
  cases hk

/-- A session that is cut off stays so, and all that a request of it can come to is the error that
tells this. -/
lemma silent_of_step (hx : x.IsSilent) (h : x.step? config now e = some y) :
    y.IsSilent ∧ ∀ outcome, y.activity = .finished outcome →
      x.activity = .finished outcome ∧ y.notConnected = x.notConnected ∨
        outcome = .error y.notConnected := by
  have hquiet (hy : y.hasChannel = false) : y.keepalive.isPinging = false := by
    cases hk : y.keepalive.isPinging with
    | false => rfl
    | true =>
      rw [(pingsAlone_of_step (pingsAlone_of_quiet hx.quiet) h hk).2] at hy
      cases hy
  obtain ⟨⟨hstate, hchannel⟩, hstage, hstill, -⟩ := hx
  rcases proceeds_or_directed h with hp | hd
  · cases hp with
    | opened _ _ ha | openExpired _ ha => exact absurd (by rw [ha]; rfl) hstage
    | claimRequest _ _ _ _ hc | claimEnd _ _ hc =>
      rw [hchannel] at hc
      cases hc
    | claimNothing _ _ _ _ hc =>
      refine ⟨⟨⟨rfl, hc⟩, nofun, rfl, hquiet hc⟩, fun outcome ho => .inr ?_⟩
      cases ho
      rfl
    | claimEnded _ _ hc => exact ⟨⟨⟨rfl, hc⟩, nofun, rfl, hquiet hc⟩, nofun⟩
    | sendFailed c _ ha =>
      rw [isOperation_of_conversation (Activity.conversation_of_sending ha)] at hstill
      cases hstill
    | keepalive =>
      exact ⟨⟨⟨hstate, hchannel⟩, hstage, hstill, hquiet hchannel⟩, fun _ ho => .inl ⟨ho, rfl⟩⟩
    | sentRequest _ ha | sentPong _ _ ha | sentAnswer _ _ ha | received _ _ ha | closedAfter _ ha
    | closedEnd ha =>
      rw [ha] at hstill
      cases hstill
  · cases hd <;> exact ⟨⟨⟨hstate, hchannel⟩, nofun, rfl, hquiet hchannel⟩, nofun⟩

lemma silent_of_course (hx : x.IsSilent) (h : Course config x after y) : y.IsSilent := by
  induction h with
  | start => exact hx
  | step _ hs ih => exact (silent_of_step ih hs).1

lemma notConnected_of_course (hx : x.IsSilent) (ha : x.activity = .resting)
    (h : Course config x after y) : ∀ outcome, y.activity = .finished outcome →
      outcome = .error y.notConnected := by
  induction h with
  | start =>
    intro outcome ho
    rw [ha] at ho
    cases ho
  | step hq hs ih =>
    intro outcome ho
    rcases (silent_of_step (silent_of_course hx hq) hs).2 outcome ho with ⟨hbefore, hid⟩ | hnow
    · rw [hid]
      exact ih outcome hbefore
    · exact hnow

/-- A request of a session that is cut off fails as soon as it is made. -/
lemma run_of_silent (hx : x.IsSilent) (ha : x.activity = .resting) (request : Uuid)
    (script : String) :
    x.run? config [(now, .submit request script), (now, .claim)] =
      some { x with activity := .finished (.error x.notConnected) } := by
  obtain ⟨⟨hstate, hchannel⟩, -, -, hquiet⟩ := hx
  simp [run?, step?, claim?, ha, hquiet, hchannel, ← hstate, notConnected]

/-- What holds of a session all of whose calls run to completion. -/
structure Consistent (config : ClientConfig) (path : List Change) (x : Session) : Prop where
  /-- Between calls the session is connected exactly if it has its channel. -/
  connected : x.activity.isSettled = true → (x.isConnected = true ↔ x.hasChannel = true)
  /-- A request leaves it disconnected exactly if it fails as disconnected or for the protocol, and
  else idle. -/
  submitted : ∀ outcome, x.activity = .finished outcome →
    (x.state = .disconnected ↔
      ∃ e, outcome = .error e ∧ (e.kind = .disconnected ∨ e.kind = .protocol)) ∧
    (x.state = .disconnected ∨ x.state = .idle)
  /-- A disconnect leaves it disconnected. -/
  ended : x.activity = .ended → x.state = .disconnected
  /-- Once disconnected it stays so, and no message and no ping goes either way. -/
  silent : x.activity.isSettled = true → x.state = .disconnected →
    ∀ after y, Course config x after y → y.state = .disconnected ∧ y.hasChannel = false ∧
      y.activity.isOperation = false ∧ y.keepalive.isPinging = false
  /-- A request that is made then fails as disconnected, at once. -/
  refused : x.activity = .resting → x.state = .disconnected →
    (∀ now request script, x.run? config [(now, .submit request script), (now, .claim)] =
      some { x with activity := .finished (.error x.notConnected) }) ∧
    ∀ after y outcome, Course config x after y → y.activity = .finished outcome →
      outcome = .error y.notConnected ∧ y.notConnected.kind = .disconnected
  /-- The channel is closed once at most, whether or not that succeeds. -/
  closed : path.countP Change.closesChannel ≤ 1
  /-- A session that had a channel and is disconnected has closed it. -/
  closedOnce : x.activity.isSettled = true → x.state = .disconnected →
    (∃ c ∈ path, c.opensChannel = true) → path.countP Change.closesChannel = 1

/-- Calls that run to completion keep a session consistent, whatever its channel does. -/
theorem consistent_of_course (h : Course config (opening config id start) path x)
    (hu : Uncancelled path) : Consistent config path x := by
  have hagrees : x.Agrees := agrees_of_course h hu
  have hchannel := channelled_of_course h
  have hcut (ha : x.activity.isSettled = true) (hd : x.state = .disconnected) : x.IsCutOff :=
    isCutOff_of_disconnected (hagrees.settled ha) hd
  have hsilent (ha : x.activity.isSettled = true) (hd : x.state = .disconnected) : x.IsSilent := by
    have hc : x.IsCutOff := hcut ha hd
    refine ⟨hc, ?_, ?_, ?_⟩
    · cases hx : x.activity <;> simp_all [Activity.isSettled, Activity.stage]
    · cases hx : x.activity <;> simp_all [Activity.isSettled, Activity.isOperation]
    · cases hk : x.keepalive.isPinging with
      | false => rfl
      | true =>
        rw [IsCutOff, (pingsAlone_of_course h hk).2] at hc
        cases hc.2
  refine ⟨fun ha => isConnected_iff (hagrees.settled ha), fun _ ho => state_of_finished hagrees ho,
    fun ha => ?_, fun ha hd after y hy => ?_, fun ha hd => ?_, hchannel.closed_le, ?_⟩
  · simp only [Agrees, ha] at hagrees
    exact hagrees.1
  · obtain ⟨⟨hstate, hno⟩, -, hstill, hquiet⟩ := silent_of_course (hsilent ha hd) hy
    exact ⟨hstate, hno, hstill, hquiet⟩
  · have hx : x.IsSilent := hsilent (by rw [ha]; rfl) hd
    exact ⟨fun _ => run_of_silent hx ha,
      fun after y outcome hy ho => ⟨notConnected_of_course hx ha hy outcome ho, rfl⟩⟩
  · rintro ha hd ⟨c, hc, hopens⟩
    have hopened : 0 < path.countP Change.opensChannel := List.countP_pos_iff.2 ⟨c, hc, hopens⟩
    have hbalance := hchannel.balance
    have honce := hchannel.once
    rw [(hcut ha hd).2, Bool.toNat_false] at hbalance
    omega

/-- A request whose server closes the connection, and another one afterwards. -/
def cutOffRun : List (Instant × Event) :=
  [.opened true, .submit ⟨1⟩ "g.V()", .claim, .sent none, .received (.ok (some (.close none))),
    .closed, .collect, .submit ⟨2⟩ "g.E()", .claim].map (.ofMillis 0, ·)

lemma cutOffRun_evaluated :
    (freshSession.run? {} cutOffRun).any (fun x => x.activity.isSettled) = true ∧
      (freshSession.run? {} cutOffRun).any (fun x => x.state = .disconnected) = true ∧
      (freshSession.changes {} cutOffRun).all (fun c => !c.event.isCancel) = true ∧
      (freshSession.changes {} cutOffRun).any Change.opensChannel = true := by
  decide +kernel

theorem consistent_of_cutOffRun :
    Uncancelled (freshSession.changes {} cutOffRun) ∧
    ∃ x, freshSession.run? {} cutOffRun = some x ∧ x.isConnected = false ∧ x.hasChannel = false ∧
      (freshSession.changes {} cutOffRun).countP Change.closesChannel = 1 ∧
      Consistent {} (freshSession.changes {} cutOffRun) x := by
  obtain ⟨hsettled, hstate, hkept, hopened⟩ := cutOffRun_evaluated
  obtain ⟨x, hx, ha⟩ := (Option.any_eq_true _ _).1 hsettled
  rw [hx, Option.any_some, decide_eq_true_eq] at hstate
  have hu : Uncancelled (freshSession.changes {} cutOffRun) := fun c hc => by
    simpa using List.all_eq_true.1 hkept c hc
  have hc := consistent_of_course (course_of_run hx) hu
  have hno : x.isConnected = false := by simp [isConnected, hstate]
  refine ⟨hu, x, hx, hno, (hc.silent ha hstate [] x .start).2.1,
    hc.closedOnce ha hstate (List.any_eq_true.1 hopened), hc⟩

end Session

end GraphClient
