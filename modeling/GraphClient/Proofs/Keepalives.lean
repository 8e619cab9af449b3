import GraphClient.Proofs.Noise
import GraphClient.Proofs.Requests
import GraphClient.Proofs.SessionCourses

/-!
# Keepalive pings

A ping of the keepalive is on its way only while no request and no disconnect has the channel, and
only while the channel is there. The log of a channel therefore has no such ping between a request
and its end, and none after the channel was taken for closing.
-/

namespace GraphClient.Session

/-- What the log of a channel tells about it, in order. -/
inductive Mark where
  /-- The channel is told to send a request with this identifier. -/
  | eval (id : Uuid)
  /-- The request that was sent has an outcome, or its user has dropped it. -/
  | released
  /-- The channel is told to send a ping of the keepalive. -/
  | ping
  /-- The ping is out. -/
  | pinged
  /-- The channel is taken for closing. -/
  | taken
  deriving DecidableEq

/-- A ping of the keepalive begins to be sent, or is out. -/
def Mark.isPing : Mark → Bool
  | ping | pinged => true
  | _ => false

namespace Change

/-- What a change adds to the log of the channel. -/
def mark? (c : Change) : Option Mark :=
  match c.event with
  | .tick => if c.after.keepalive.isPinging then some .ping else none
  | .pinged => some .pinged
  | _ =>
    match c.before.activity, c.after.activity with
    | .claimingRequest id _, .sendingRequest _ => some (.eval id)
    | _, _ =>
      if c.before.activity.isOut && !c.after.activity.isOut then some .released
      else if c.closesChannel then some .taken
      else none

end Change

/-- A ping is on its way only on a channel that is there and that nobody holds. -/
def PingsAlone (x : Session) : Prop :=
  x.keepalive.isPinging = true → x.activity.isOperation = false ∧ x.hasChannel = true

variable {config : ClientConfig} {start now : Instant} {id : Nat} {x y z : Session} {e : Event}
variable {path : List Change} {m : Mark}

lemma isOperation_of_conversation {a : Activity} {c : Conversation}
    (h : a.conversation? = some c) : a.isOperation = true := by
  cases a <;> simp_all [Activity.conversation?, Activity.isOperation]

lemma isOperation_of_isOut {a : Activity} (h : a.isOut = true) : a.isOperation = true := by
  cases a <;> simp_all [Activity.isOut, Activity.isOperation]

lemma not_operation_of_free {a : Activity} (h : a.holdsChannel = false) :
    a.isOperation = false := by
  cases a <;> simp_all [Activity.holdsChannel, Activity.isOperation]

lemma isPinging_firstKeepalive : (firstKeepalive config now).isPinging = false := by
  unfold firstKeepalive
  split
  · rfl
  · split <;> rfl

lemma isPinging_started (success : Bool) :
    (x.started config now success).keepalive.isPinging = false := by
  cases success with
  | false => rfl
  | true => exact isPinging_firstKeepalive

/-- The keepalive wakes: a ping begins only if nobody holds the channel or waits for it. -/
lemma of_tick (h : x.step? config now .tick = some y) :
    ∃ k, y = { x with keepalive := k } ∧ x.keepalive.isPinging = false ∧
      (k.isPinging = true → x.activity.holdsChannel = false ∧ x.hasChannel = true) := by
  simp only [step?, tick?] at h
  split at h
  · rename_i next hk
    have hx : x.keepalive.isPinging = false := by rw [hk]; rfl
    split at h
    · split at h
      · cases h
        exact ⟨_, rfl, hx, fun hk => by cases hk⟩
      · rename_i hfree
        split at h <;> rename_i hc <;> cases h
        · exact ⟨_, rfl, hx, fun _ => ⟨by simpa using hfree, hc⟩⟩
        · exact ⟨_, rfl, hx, fun hk => by cases hk⟩
    · cases h
  · cases h

lemma of_pinged_or_stop (he : e = .pinged ∨ e = .stop) (h : x.step? config now e = some y) :
    ∃ k, y = { x with keepalive := k } ∧ k.isPinging = false ∧
      (e = .pinged → x.keepalive.isPinging = true) := by
  rcases he with rfl | rfl
  · simp only [step?] at h
    split at h <;> cases h
    rename_i hk
    exact ⟨_, rfl, rfl, fun _ => by rw [hk]; rfl⟩
  · simp only [step?] at h
    split at h
    · split at h <;> cases h
      exact ⟨_, rfl, rfl, fun he => by cases he⟩
    · cases h

/-- No event but those of the keepalive sets a ping going, and while one is going no operation of
the channel begins. -/
lemma pings_of_step (hx : x.PingsAlone) (he : e ≠ .tick) (h : x.step? config now e = some y)
    (hy : y.keepalive.isPinging = true) :
    x.keepalive.isPinging = true ∧ y.activity.isOperation = false ∧
      y.hasChannel = x.hasChannel := by
  -- an operation that is going on leaves no room for a ping
  have hbusy (hop : x.activity.isOperation = true) : x.keepalive.isPinging = false := by
    cases hk : x.keepalive.isPinging with
    | false => rfl
    | true => rw [(hx hk).1] at hop; cases hop
  rcases proceeds_or_directed h with hp | hd
  · cases hp with
    | opened _ success => rw [isPinging_started] at hy; cases hy
    | openExpired => rw [isPinging_started] at hy; cases hy
    | claimRequest _ _ _ hk | claimNothing _ _ _ hk | claimEnd _ hk | claimEnded _ hk =>
      rw [hk] at hy
      cases hy
    | sentRequest c ha | sentPong c _ ha | sentAnswer c _ ha =>
      rw [hbusy (by rw [ha]; rfl)] at hy
      cases hy
    | sendFailed c _ ha =>
      have hk := hbusy (isOperation_of_conversation (Activity.conversation_of_sending ha))
      rw [(talks_of_conclude x.state _).keepalive, hk] at hy
      cases hy
    | received c result ha =>
      rw [(talks_of_received result).keepalive, hbusy (by rw [ha]; rfl)] at hy
      cases hy
    | closedAfter _ ha | closedEnd ha =>
      rw [hbusy (by rw [ha]; rfl)] at hy
      cases hy
    | keepalive _ k hke =>
      obtain ⟨k', hk', hno, -⟩ := of_pinged_or_stop (hke.resolve_left he) h
      rw [hk'] at hy
      rw [show k'.isPinging = true from hy] at hno
      cases hno
  · cases hd <;> exact ⟨hy, rfl, rfl⟩

theorem pingsAlone_of_step (hx : x.PingsAlone) (h : x.step? config now e = some y) :
    y.PingsAlone := by
  intro hy
  by_cases he : e = .tick
  · subst he
    obtain ⟨k, rfl, -, hk⟩ := of_tick h
    exact ⟨not_operation_of_free (hk hy).1, (hk hy).2⟩
  · obtain ⟨hping, hfree, hsame⟩ := pings_of_step hx he h hy
    exact ⟨hfree, hsame.trans (hx hping).2⟩

theorem pingsAlone_of_course (h : Course config (opening config id start) path y) :
    y.PingsAlone := by
  induction h with
  | start => exact nofun
  | step _ hs ih => exact pingsAlone_of_step ih hs

/-- The log of the channel over a course. -/
def log (path : List Change) : List Mark := path.filterMap Change.mark?

lemma log_concat (c : Change) : log (path ++ [c]) = log path ++ c.mark?.toList := by
  rw [log, log, filterMap_concat]

/-- The changes that a mark stands for. -/
def Mark.Means (c : Change) : Mark → Prop
  | eval id => ∃ script conversation,
    c.before.activity = .claimingRequest id script ∧ c.after.activity = .sendingRequest conversation
  | released => c.before.activity.isOut = true ∧ c.after.activity.isOut = false
  | ping => c.event = .tick ∧ c.after.keepalive.isPinging = true
  | pinged => c.event = .pinged
  | taken => c.closesChannel = true

lemma means_of_mark {c : Change} (h : c.mark? = some m) : m.Means c := by
  unfold Change.mark? at h
  split at h
  · rename_i he
    split at h <;> cases h
    rename_i hk
    exact ⟨he, hk⟩
  · rename_i he
    cases h
    exact he
  · split at h
    · rename_i hx hy
      cases h
      exact ⟨_, _, hx, hy⟩
    · split at h
      · rename_i ho
        cases h
        simpa [Mark.Means] using ho
      · split at h <;> cases h
        rename_i hc
        exact hc

lemma begun_of_step (h : x.step? config now e = some y)
    (hm : (⟨x, e, y⟩ : Change).mark? = some .ping) :
    x.activity.holdsChannel = false ∧ x.hasChannel = true := by
  obtain ⟨he, hping⟩ := means_of_mark hm
  cases he
  obtain ⟨k, rfl, -, hk⟩ := of_tick h
  exact hk hping

lemma free_of_ping (hx : x.PingsAlone) (h : x.step? config now e = some y)
    (hm : (⟨x, e, y⟩ : Change).mark? = some m) (hp : m.isPing = true) :
    x.activity.isOut = false ∧ x.hasChannel = true := by
  have hfree : x.activity.isOperation = false ∧ x.hasChannel = true := by
    cases m with
    | ping =>
      obtain ⟨hheld, hc⟩ := begun_of_step h hm
      exact ⟨not_operation_of_free hheld, hc⟩
    | pinged =>
      have he : e = .pinged := means_of_mark hm
      obtain ⟨_, -, -, hk⟩ := of_pinged_or_stop (.inl he) h
      exact hx (hk he)
    | _ => cases hp
  refine ⟨?_, hfree.2⟩
  cases ho : x.activity.isOut with
  | false => rfl
  | true => rw [isOperation_of_isOut ho] at hfree; cases hfree.1

/-- The log shows when a request that was out is out no more. -/
lemma released_of_step (h : x.step? config now e = some y) (hx : x.activity.isOut = true)
    (hy : y.activity.isOut = false) : (⟨x, e, y⟩ : Change).mark? = some .released := by
  unfold Change.mark?
  split
  · rename_i he
    cases he
    obtain ⟨k, rfl, -⟩ := of_tick h
    rw [show x.activity.isOut = false from hy] at hx
    cases hx
  · rename_i he
    obtain ⟨k, rfl, -⟩ := of_pinged_or_stop (.inl he) h
    rw [show x.activity.isOut = false from hy] at hx
    cases hx
  · split
    · rename_i hclaim _
      rw [show x.activity = _ from hclaim] at hx
      cases hx
    · simp [hx, hy]

/-- A log in which every ping after a request comes after its end. The request that was sent last
may still be out. -/
structure Apart (log : List Mark) (out : Bool) : Prop where
  pending : ∀ id between, .eval id :: between <:+ log → .released ∈ between ∨ out = true
  apart : ∀ id between m, .eval id :: between ++ [m] <:+: log → m.isPing = true →
    .released ∈ between

lemma apart_nil {out : Bool} : Apart [] out where
  pending id between h := by simp at h
  apart id between m h := by simp at h

lemma Apart.same {log : List Mark} {out out' : Bool} (h : Apart log out)
    (ho : out = true → out' = true) : Apart log out' :=
  ⟨fun id between hb => (h.pending id between hb).imp_right ho, h.apart⟩

lemma Apart.concat {log : List Mark} {out out' : Bool} (h : Apart log out)
    (hp : m.isPing = true → out = false) (ho : out = true → out' = true ∨ m = .released)
    (he : ∀ id, m = .eval id → out' = true) : Apart (log ++ [m]) out' where
  pending id between hb := by
    rcases List.suffix_concat_iff.1 hb with hb | ⟨before, hbefore, hs⟩
    · cases hb
    · cases before with
      | nil =>
        cases hbefore
        exact .inr (he id rfl)
      | cons first before =>
        cases hbefore
        rcases h.pending id before hs with hreleased | hout
        · exact .inl (List.mem_append_left _ hreleased)
        · rcases ho hout with hout' | rfl
          · exact .inr hout'
          · exact .inl (List.mem_append_right _ List.mem_cons_self)
  apart id between m' hb hm' := by
    rcases List.infix_concat_iff.1 hb with hs | hi
    · rcases List.suffix_concat_iff.1 hs with hnil | ⟨before, hbefore, hbetween⟩
      · cases hnil
      · obtain ⟨rfl, hm⟩ := List.append_inj' hbefore rfl
        cases hm
        rcases h.pending id between hbetween with hreleased | hout
        · exact hreleased
        · rw [hp hm'] at hout
          cases hout
    · exact h.apart id between m' hi hm'

lemma apart_of_step (hx : x.PingsAlone) (hl : Apart (log path) x.activity.isOut)
    (h : x.step? config now e = some y) : Apart (log (path ++ [⟨x, e, y⟩])) y.activity.isOut := by
  rw [log_concat]
  cases hm : (⟨x, e, y⟩ : Change).mark? with
  | none =>
    rw [Option.toList_none, List.append_nil]
    refine hl.same fun hout => ?_
    cases hy : y.activity.isOut with
    | true => rfl
    | false => rw [released_of_step h hout hy] at hm; cases hm
  | some m =>
    refine hl.concat (fun hp => (free_of_ping hx h hm hp).1) (fun hout => ?_) fun id he => ?_
    · cases hy : y.activity.isOut with
      | true => exact .inl rfl
      | false =>
        rw [released_of_step h hout hy] at hm
        cases hm
        exact .inr rfl
    · subst he
      obtain ⟨script, c, -, hy⟩ := means_of_mark hm
      rw [show y.activity = _ from hy]
      rfl

lemma apart_of_course (h : Course config (opening config id start) path y) :
    Apart (log path) y.activity.isOut := by
  induction h with
  | start => exact apart_nil
  | step hq hs ih => exact apart_of_step (pingsAlone_of_course hq) ih hs

lemma begun_of_course (h : Course config x path y) : ∀ c ∈ path, c.mark? = some .ping →
    c.before.activity.holdsChannel = false ∧ c.before.hasChannel = true := by
  induction h with
  | start => exact fun _ hc => absurd hc List.not_mem_nil
  | step _ hs ih =>
    intro c hc hm
    rcases List.mem_append.1 hc with hc | hc
    · exact ih c hc hm
    · cases List.mem_singleton.1 hc
      exact begun_of_step hs hm

lemma no_channel_of_taken (h : Course config (opening config id start) path y)
    (ht : .taken ∈ log path) : y.hasChannel = false := by
  obtain ⟨c, hc, hm⟩ := List.mem_filterMap.1 ht
  have hcloses : 0 < path.countP Change.closesChannel :=
    List.countP_pos_iff.2 ⟨c, hc, means_of_mark hm⟩
  have hchannel := channelled_of_course h
  have hbalance := hchannel.balance
  have honce := hchannel.once
  cases hy : y.hasChannel with
  | false => rfl
  | true =>
    rw [hy, Bool.toNat_true] at hbalance
    omega

lemma taken_of_course (h : Course config (opening config id start) path y) :
    (log path).Pairwise fun a b => a = .taken → b.isPing = false := by
  induction h with
  | start => exact .nil
  | step hq hs ih =>
    rw [log_concat, List.pairwise_append]
    refine ⟨ih, ?_, fun a ha m hm htaken => ?_⟩
    · cases Change.mark? _ with
      | none => exact .nil
      | some m => exact List.pairwise_singleton _ m
    · subst htaken
      cases hp : m.isPing with
      | false => rfl
      | true =>
        have hc := (free_of_ping (pingsAlone_of_course hq) hs (by simpa using hm) hp).2
        rw [no_channel_of_taken hq ha] at hc
        cases hc

lemma off_of_step (hz : config.pingInterval.isZero = true) (hx : x.keepalive = .off)
    (h : x.step? config now e = some y) : y.keepalive = .off := by
  rcases proceeds_or_directed h with hp | hd
  · cases hp with
    | opened _ success =>
      cases success with
      | false => rfl
      | true => exact if_pos hz
    | sendFailed c _ ha => exact (talks_of_conclude x.state _).keepalive.trans hx
    | received c result ha => exact (talks_of_received result).keepalive.trans hx
    | keepalive _ k hke =>
      rcases hke with rfl | rfl | rfl <;> simp [step?, tick?, hx] at h
    | openExpired => rfl
    | _ => exact hx
  · cases hd <;> exact hx

lemma not_ping_of_off (hx : x.keepalive = .off) (h : x.step? config now e = some y) :
    e ≠ .tick ∧ e ≠ .pinged := by
  constructor <;> rintro rfl <;> simp [step?, tick?, hx] at h

lemma off_of_course (hz : config.pingInterval.isZero = true)
    (h : Course config (opening config id start) path y) :
    y.keepalive = .off ∧ ∀ m ∈ log path, m.isPing = false := by
  induction h with
  | start => exact ⟨rfl, nofun⟩
  | step _ hs ih =>
    obtain ⟨htick, hpinged⟩ := not_ping_of_off ih.1 hs
    refine ⟨off_of_step hz ih.1 hs, fun m hm => ?_⟩
    rw [log_concat, List.mem_append] at hm
    rcases hm with hm | hm
    · exact ih.2 m hm
    · have hmeans := means_of_mark (Option.mem_toList.1 hm)
      cases m with
      | ping => exact absurd hmeans.1 htick
      | pinged => exact absurd hmeans hpinged
      | _ => rfl

/-- How the pings of a keepalive keep out of the way of all else that a session does. -/
structure KeepsOut (config : ClientConfig) (path : List Change) (y : Session) : Prop where
  /-- While a ping is on its way the channel is there, and no operation of a request or of a
  disconnect has it. -/
  alone : y.PingsAlone
  /-- A ping begins only while nobody has the channel or waits for it. -/
  begun : ∀ c ∈ path, c.mark? = some .ping →
    c.before.activity.holdsChannel = false ∧ c.before.hasChannel = true
  /-- Between a request and a later ping in the log the request has released the channel. -/
  apart : ∀ id between m, .eval id :: between ++ [m] <:+: log path → m.isPing = true →
    .released ∈ between
  /-- No ping comes after the channel was taken for closing. -/
  taken : (log path).Pairwise fun a b => a = .taken → b.isPing = false
  /-- Without an interval there is no ping at all. -/
  never : config.pingInterval.isZero = true →
    y.keepalive = .off ∧ ∀ m ∈ log path, m.isPing = false

/-- In every course of a session, whatever its user, its channel and the clock do, the pings of the
keepalive keep out of the way. -/
theorem pings_keep_out (h : Course config (opening config id start) path y) :
    KeepsOut config path y where
  alone := pingsAlone_of_course h
  begun := begun_of_course h
  apart := (apart_of_course h).apart
  taken := taken_of_course h
  never hz := off_of_course hz h

/-- A request that waits for a ping and is dropped while its answer is awaited, and the end of the
session after another ping. The keepalive wakes all the time. -/
def pingedRun : List (Instant × Event) :=
  [(.ofMillis 0, .opened true), (.ofMillis 30000, .tick), (.ofMillis 30000, .submit ⟨1⟩ "g.V()"),
    (.ofMillis 30001, .pinged), (.ofMillis 30001, .claim), (.ofMillis 30001, .sent none),
    (.ofMillis 60000, .tick), (.ofMillis 60001, .cancel), (.ofMillis 90000, .tick),
    (.ofMillis 90001, .disconnect), (.ofMillis 90002, .pinged), (.ofMillis 90002, .claim),
    (.ofMillis 120000, .tick), (.ofMillis 120001, .closed), (.ofMillis 150000, .tick)]

theorem pings_keep_out_of_pingedRun : ∃ y, freshSession.run? {} pingedRun = some y ∧
    log (freshSession.changes {} pingedRun) =
      [.ping, .pinged, .eval ⟨1⟩, .released, .ping, .pinged, .taken] ∧
    KeepsOut {} (freshSession.changes {} pingedRun) y := by
  have hsome : (freshSession.run? {} pingedRun).isSome = true := by decide +kernel
  obtain ⟨y, hy⟩ := Option.isSome_iff_exists.1 hsome
  exact ⟨y, hy, by decide +kernel, pings_keep_out (course_of_run hy)⟩

end GraphClient.Session
