import GraphClient.Proofs.Closing
import GraphClient.Proofs.Disconnection

/-!
# Sessions whose channel could not be opened

A pool begins with a session for every channel, also for those that could not be opened. Whoever
gets such a session is told at once that it is not connected, and the session is discarded. No other
session is ever lent without its channel, because only a connected one becomes idle again.
-/

namespace GraphClient

/-- The user of a session has nothing to do with its channel, or not yet. -/
def Activity.needsNone (a : Activity) : Prop :=
  a = .resting ∨ a = .claimingEnd ∨ ∃ id script, a = .claimingRequest id script

namespace Session

/-- The channel cannot be opened, or is not there in time. -/
def Event.failsToOpen : Event → Bool
  | opened success => !success
  | openExpired => true
  | _ => false

/-- The session never had a channel, and all that a request of it comes to is the error that tells
this. -/
structure IsUnopened (x : Session) : Prop where
  silent : x.IsSilent
  off : x.keepalive = .off
  fails : ∀ outcome, x.activity = .finished outcome → outcome = .error x.notConnected

section Steps

variable {config : ClientConfig} {now : Instant} {x y : Session} {e : Event}

lemma Talks.id (h : x.Talks y) : y.id = x.id := by
  cases h <;> rfl

lemma id_of_step (h : x.step? config now e = some y) : y.id = x.id := by
  rcases proceeds_or_directed h with hp | hd
  · cases hp with
    | sendFailed => exact (talks_of_conclude x.state _).id
    | received => exact (talks_of_received _).id
    | _ => rfl
  · cases hd <;> rfl

/-- A channel fails to open once, and the session has none from then on. -/
lemma unopened_of_failed (he : e.failsToOpen = true) (h : x.step? config now e = some y) :
    x.activity.stage = .opening ∧ y.IsUnopened := by
  have hstarted : (x.started config now false).IsUnopened :=
    ⟨⟨⟨rfl, rfl⟩, nofun, rfl, rfl⟩, rfl, nofun⟩
  rcases proceeds_or_directed h with hp | hd
  · cases hp with
    | opened _ success ha =>
      cases success with
      | true => cases he
      | false => exact ⟨by rw [ha]; rfl, hstarted⟩
    | openExpired _ ha => exact ⟨by rw [ha]; rfl, hstarted⟩
    | keepalive _ _ hke => rcases hke with rfl | rfl | rfl <;> cases he
    | _ => cases he
  · cases hd <;> cases he

lemma not_keepalive_of_off (hx : x.keepalive = .off) (h : x.step? config now e = some y) :
    ¬(e = .tick ∨ e = .pinged ∨ e = .stop) := by
  rintro (rfl | rfl | rfl) <;> simp [step?, tick?, hx] at h

/-- All that happens to a session whose channel is being opened is that it is there or is not. -/
lemma started_of_opening (ho : x.activity.stage = .opening) (hk : x.keepalive = .off)
    (he : Pool.isOwnEvent e = true) (h : x.step? config now e = some y) :
    ∃ success, y = x.started config now success ∧ e.failsToOpen = !success := by
  cases proceeds_of_step he h with
  | opened _ success => exact ⟨success, rfl, rfl⟩
  | openExpired => exact ⟨false, rfl, rfl⟩
  | keepalive _ _ hke => exact absurd hke (not_keepalive_of_off hk h)
  | sendFailed c _ ha =>
    rw [Activity.stage_of_conversation (Activity.conversation_of_sending ha)] at ho
    cases ho
  | claimRequest _ _ ha | claimNothing _ _ ha | claimEnd ha | claimEnded ha | sentRequest _ ha
  | sentPong _ _ ha | sentAnswer _ _ ha | received _ _ ha | closedAfter _ ha | closedEnd ha =>
    rw [ha] at ho
    cases ho

/-- All that such a session sees on its own is that its user finds no channel. -/
lemma IsUnopened.eq_claim (hx : x.IsUnopened) (he : Pool.isOwnEvent e = true)
    (h : x.step? config now e = some y) : e = .claim := by
  obtain ⟨-, hstage, hstill, -⟩ := hx.silent
  cases proceeds_of_step he h with
  | opened _ _ ha | openExpired _ ha => exact absurd (by rw [ha]; rfl) hstage
  | claimRequest | claimNothing | claimEnd | claimEnded => rfl
  | sendFailed c _ ha =>
    rw [isOperation_of_conversation (Activity.conversation_of_sending ha)] at hstill
    cases hstill
  | sentRequest _ ha | sentPong _ _ ha | sentAnswer _ _ ha | received _ _ ha | closedAfter _ ha
  | closedEnd ha =>
    rw [ha] at hstill
    cases hstill
  | keepalive _ _ hke => exact absurd hke (not_keepalive_of_off hx.off h)

lemma IsUnopened.own (hx : x.IsUnopened) (he : Pool.isOwnEvent e = true)
    (h : x.step? config now e = some y) : y.IsUnopened := by
  obtain ⟨hsilent, hfails⟩ := silent_of_step hx.silent h
  refine ⟨hsilent, ?_, fun outcome ho => ?_⟩
  · cases hx.eq_claim he h
    cases proceeds_of_step he h with
    | claimRequest | claimNothing | claimEnd | claimEnded => exact hx.off
    | keepalive _ _ hke => exact absurd hke nofun
  · rcases hfails outcome ho with ⟨hbefore, hid⟩ | hnow
    · rw [hid]
      exact hx.fails outcome hbefore
    · exact hnow

/-- Its user takes it on to what needs no channel. -/
lemma IsUnopened.user (hx : x.IsUnopened) (stopping : Bool) {a : Activity} (ha : a.needsNone) :
    IsUnopened { x with stopping := stopping, activity := a } := by
  obtain rfl | rfl | ⟨id, script, rfl⟩ := ha <;>
    exact ⟨⟨hx.silent.cutOff, nofun, rfl, hx.silent.quiet⟩, hx.off, nofun⟩

/-- A request of it waits for nobody. -/
lemma IsUnopened.claims (hx : x.IsUnopened) (hr : x.activity.isRequest = true) :
    x.step? config now .claim ≠ none := by
  obtain ⟨⟨-, hchannel⟩, -, hstill, hquiet⟩ := hx.silent
  cases ha : x.activity with
  | claimingRequest id script => simp [step?, claim?, ha, hquiet, hchannel]
  | _ => simp_all [Activity.isRequest, Activity.isOperation]

lemma IsUnopened.not_waitsForChannel (hx : x.IsUnopened) : ¬x.WaitsForChannel := by
  rintro (hop | ⟨-, hk⟩)
  · rw [hx.silent.still] at hop
    cases hop
  · rw [hx.silent.quiet] at hk
    cases hk

lemma stage_of_ending (h : x.Proceeds config now e y) (hx : x.activity.stage = .ending) :
    y.activity.stage = .ending := by
  cases h with
  | claimEnd | claimEnded | closedEnd => rfl
  | keepalive => exact hx
  | sendFailed c _ ha =>
    rw [Activity.stage_of_conversation (Activity.conversation_of_sending ha)] at hx
    cases hx
  | opened _ _ ha | openExpired _ ha | claimRequest _ _ ha | claimNothing _ _ ha
  | sentRequest _ ha | sentPong _ _ ha | sentAnswer _ _ ha | received _ _ ha | closedAfter _ ha =>
    rw [ha] at hx
    cases hx

end Steps

/-- How a session of a pool fares in its role, by what has happened to it on its own. -/
structure Fares (s : Nat) (events : List Event) (r : Option Role) (x : Session) : Prop where
  id : x.id = s + 1
  opening : x.activity.stage = .opening → events = [] ∧ x.keepalive = .off
  agrees : x.activity.stage ≠ .ending → x.Agrees
  unopened : events.any (·.failsToOpen) = true →
    x.IsUnopened ∧ ∀ e ∈ events, e = .claim ∨ e.failsToOpen = true
  spare : r = some .spare → x.activity.stage ≠ .opening →
    events.any (·.failsToOpen) = false → x.IsIdle

section Fares

variable {config : ClientConfig} {now : Instant} {x y : Session} {e : Event} {s : Nat}
variable {events : List Event} {r r' : Option Role}

lemma Fares.own (hx : x.Fares s events r) (hr : Role.Admits r x)
    (he : Pool.isOwnEvent e = true) (h : x.step? config now e = some y) :
    y.Fares s (events ++ [e]) r := by
  have hp := proceeds_of_step he h
  refine ⟨(id_of_step h).trans hx.id, fun hy => ?_, fun hy => ?_, fun hf => ?_,
    fun hrole _ hf => ?_⟩
  · by_cases ho : x.activity.stage = .opening
    · obtain ⟨success, rfl, -⟩ := started_of_opening ho (hx.opening ho).2 he h
      cases hy
    · exact absurd hy (hp.not_opening ho)
  · refine agrees_of_proceeds (hx.agrees fun hend => ?_) hp
    exact hy (stage_of_ending hp hend)
  · cases hfails : e.failsToOpen with
    | true =>
      obtain ⟨ho, hy⟩ := unopened_of_failed hfails h
      refine ⟨hy, fun e' he' => ?_⟩
      rw [(hx.opening ho).1, List.nil_append, List.mem_singleton] at he'
      rw [he']
      exact .inr hfails
    | false =>
      rw [List.any_append, List.any_cons, hfails, List.any_nil, Bool.or_false,
        Bool.or_false] at hf
      obtain ⟨hunopened, hold⟩ := hx.unopened hf
      refine ⟨hunopened.own he h, fun e' he' => ?_⟩
      rcases List.mem_append.1 he' with he' | he'
      · exact hold e' he'
      · rw [List.mem_singleton.1 he']
        exact .inl (hunopened.eq_claim he h)
  · rw [List.any_append, Bool.or_eq_false_iff, List.any_cons, List.any_nil, Bool.or_false] at hf
    by_cases ho : x.activity.stage = .opening
    · obtain ⟨success, rfl, hfails⟩ := started_of_opening ho (hx.opening ho).2 he h
      cases success with
      | true => exact ⟨rfl, rfl⟩
      | false =>
        rw [hfails] at hf
        cases hf.2
    · have hidle := hx.spare hrole ho hf.1
      subst hrole
      obtain ⟨k, rfl⟩ := hp.of_resting (hr.resolve_left ho)
      exact hidle

/-- Its user takes it on to what needs no channel, and it is spare no longer. -/
lemma Fares.user (hx : x.Fares s events r) (stopping : Bool) {a : Activity} (ha : a.needsNone)
    (hr : r' ≠ some .spare)
    (hagrees : a.stage ≠ .ending → Agrees { x with stopping := stopping, activity := a }) :
    Fares s events r' { x with stopping := stopping, activity := a } := by
  refine ⟨hx.id, fun ho => ?_, hagrees,
    fun hf => ⟨(hx.unopened hf).1.user stopping ha, (hx.unopened hf).2⟩, fun h => absurd h hr⟩
  obtain rfl | rfl | ⟨id, script, rfl⟩ := ha <;> cases ho

lemma Fares.turn (hx : x.Fares s events r) (hr : Role.Admits r x) (h : Pool.Turn r x r' y) :
    y.Fares s events r' := by
  have hagrees {a : Activity} (ha : x.activity = a) (hend : a.stage ≠ .ending) : x.Agrees :=
    hx.agrees (by rwa [ha])
  cases h with
  | begin _ request script ha =>
    refine hx.user x.stopping (.inr (.inr ⟨request, script, rfl⟩)) (by decide) fun _ => ?_
    exact agrees_of_directed (hagrees ha (by decide)) rfl (.submit request script ha)
  | settle _ outcome ha =>
    refine hx.user x.stopping (.inl rfl) (by decide) fun _ => ?_
    have hend : (Activity.finished outcome).stage ≠ .ending := by simp [Activity.stage]
    exact agrees_of_directed (hagrees ha hend) rfl (.collect (.inl ⟨outcome, ha⟩))
  | putBack _ hc =>
    have ha : x.activity = .resting := hr
    refine ⟨hx.id, hx.opening, hx.agrees, hx.unopened, fun _ _ _ => ?_⟩
    rcases (hagrees ha (by decide)).settled (by rw [ha]; rfl) with hidle | hcut
    · exact hidle
    · simp [isConnected, hcut.1] at hc
  | drain | finish =>
    exact hx.user true (.inr (.inl rfl)) (by decide) fun hy => absurd rfl hy
  | lapse _ ha | leave _ ha =>
    refine hx.user x.stopping (.inl rfl) (by decide) fun _ => .inr ?_
    rcases hr with hend | ⟨hend, -⟩ | ⟨-, hchannel, hconnected⟩
    · rw [ha] at hend
      cases hend
    · rw [ha] at hend
      cases hend
    · exact ⟨by simpa [isConnected] using hconnected, hchannel⟩

end Fares

end Session

namespace Note

/-- A call gets the session. -/
def lends (s : Nat) : Note → Bool
  | lent _ t => t = s
  | _ => false

lemma lends_iff {s : Nat} {n : Note} : n.lends s = true ↔ ∃ i, n = lent i s := by
  cases n <;> simp [lends]

lemma countP_lends_eq_zero {s : Nat} {log : List Note} (h : ∀ i, lent i s ∉ log) :
    log.countP (lends s) = 0 := by
  rw [List.countP_eq_zero]
  intro n hn hl
  obtain ⟨i, rfl⟩ := lends_iff.1 hl
  exact h i hn

end Note

namespace TaskPhase

/-- The task has the session and no outcome yet, or the error is its outcome. -/
def FailsOn (s : Nat) (e : ClientError) : TaskPhase → Prop
  | spawned t | submitting t => t = s
  | releasing t outcome | placing t outcome | discarding t outcome => t = s ∧ outcome = .error e
  | sealing outcome | finished outcome => outcome = .error e
  | none | expiring _ | permitting _ => False

lemma session_of_failsOn {task : TaskPhase} {s t : Nat} {e : ClientError} (h : task.FailsOn s e)
    (ht : task.session? = some t) : t = s := by
  cases task with
  | spawned u | submitting u =>
    cases ht
    exact h
  | releasing u outcome | placing u outcome | discarding u outcome =>
    cases ht
    exact h.1
  | expiring u => cases h
  | none | permitting outcome | sealing outcome | finished outcome => cases ht

end TaskPhase

/-- What happens to a session on its own. -/
def Happening.own? (s : Nat) (h : Happening) : Option Session.Event :=
  match h.event with
  | .session t e => if t = s then some e else none
  | _ => none

namespace Pool

/-- All that has happened to a session on its own. -/
def ownEvents (path : List Happening) (s : Nat) : List Session.Event :=
  path.filterMap (Happening.own? s)

/-- The channel of a session could not be opened, or was not there in time. -/
def failedToOpen (path : List Happening) (s : Nat) : Bool :=
  (ownEvents path s).any (·.failsToOpen)

/-- What a request of a session without a channel comes to. -/
def unconnected (s : Nat) : ClientError :=
  .disconnected ("Session " ++ toString (s + 1) ++ " is not connected")

variable {config : ClientConfig} {start : Instant} {log : List Note} {p q : Pool} {e : Event}
variable {path before after : List Happening} {h : Happening} {i s : Nat} {c : Call} {x : Session}

section Own

lemma ownEvents_concat (h : Happening) :
    ownEvents (path ++ [h]) s = ownEvents path s ++ (h.own? s).toList := by
  rw [ownEvents, ownEvents, filterMap_concat]

lemma own_eq_none (he : ∀ event, e ≠ .session s event) : Happening.own? s ⟨p, e, q⟩ = none := by
  unfold Happening.own?
  split
  · rename_i t event hsame
    refine if_neg ?_
    rintro rfl
    exact he event hsame
  · rfl

lemma event_of_own {event : Session.Event} (h : Happening.own? s ⟨p, e, q⟩ = some event) :
    e = .session s event := by
  unfold Happening.own? at h
  split at h
  · rename_i t event' hsame
    split at h <;> cases h
    rename_i hts
    rw [← hts]
    exact hsame
  · cases h

lemma step_of_act {event : Session.Event} (h : p.act? (.session s event) = some q) :
    ∃ x y, isOwnEvent event = true ∧ p.sessions[s]? = some x ∧
      x.step? p.config p.now event = some y ∧ q = p.setSession s y := by
  simp only [act?] at h
  split at h
  · rename_i hown
    obtain ⟨x, y, hx, hy, rfl⟩ := sessionStep_eq_some h
    exact ⟨x, y, hown, hx, hy, rfl⟩
  · cases h

lemma session_opening (hx : (Pool.opening config start).sessions[s]? = some x) :
    x = Session.opening config (s + 1) start := by
  rw [Pool.opening, Array.getElem?_map, Option.map_eq_some_iff] at hx
  obtain ⟨t, ht, rfl⟩ := hx
  obtain ⟨_, rfl⟩ := Array.getElem?_eq_some_iff.1 ht
  rw [Array.getElem_range]

/-- How every session fares, whoever has it. -/
theorem fares_of_course (h : Course (Pool.opening config start) path p) :
    ∀ (s : Nat) (x : Session), p.sessions[s]? = some x →
      x.Fares s (ownEvents path s) (p.role s) := by
  induction h with
  | start =>
    intro s x hx
    rw [role_opening hx, session_opening hx]
    exact ⟨rfl, fun _ => ⟨rfl, rfl⟩, fun _ => rfl, nofun, fun _ ho => absurd rfl ho⟩
  | @act path p q e h he ih =>
    have hp := custody_of_history (history_of_opening h)
    by_cases hsession : ∃ t event, e = .session t event
    · obtain ⟨t, event, rfl⟩ := hsession
      obtain ⟨x, y, hown, hx, hxy, rfl⟩ := step_of_act he
      refine forall_roles_update (q := p.setSession t y) (r := p.role t)
        (P := fun s r z => z.Fares s
          (ownEvents (path ++ [⟨p, .session t event, p.setSession t y⟩]) s) r)
        hx rfl ?_ (fun s z hst hz => ?_) ?_
      · rw [role_setSession, Function.update_eq_self]
      · have hnone : Happening.own? s ⟨p, .session t event, p.setSession t y⟩ = none :=
          if_neg (Ne.symm hst)
        rw [ownEvents_concat, hnone, Option.toList_none, List.append_nil]
        exact ih s z hz
      · have hsome : Happening.own? t ⟨p, .session t event, p.setSession t y⟩ = some event :=
          if_pos rfl
        rw [ownEvents_concat, hsome, Option.toList_some]
        exact (ih t x hx).own (hp.admits t x hx) hown hxy
    · push Not at hsession
      have hsame (s : Nat) : ownEvents (path ++ [⟨p, e, q⟩]) s = ownEvents path s := by
        rw [ownEvents_concat, own_eq_none (hsession s), Option.toList_none, List.append_nil]
      simp only [hsame]
      cases shift_of_move hp (move_of_act he) hsession with
      | keep hh hs =>
        intro s x hx
        rw [hs] at hx
        rw [role_of_keep hp.nodup hh]
        exact ih s x hx
      | turn t x y r r' hx hs hr hh _ ht =>
        refine forall_roles_update (P := fun s r z => z.Fares s (ownEvents path s) r) hx hs
          (role_of_turn hp.nodup hr hh) (fun s z _ hz => ih s z hz) ?_
        subst hr
        exact (ih t x hx).turn (hp.admits t x hx) ht
  | wait _ _ ih => exact ih

lemma session_exists (h : Course (Pool.opening config start) path p) (hs : s < config.poolSize) :
    ∃ x, p.sessions[s]? = some x := by
  have hist := history_of_opening h
  have hlt : s < p.sessions.size := by
    rwa [(custody_of_history hist).size, config_of_history hist]
  exact ⟨_, Array.getElem?_eq_getElem hlt⟩

lemma notConnected_of_fares {events : List Session.Event} {r : Option Role}
    (h : x.Fares s events r) : x.notConnected = unconnected s := by
  rw [Session.notConnected, h.id, unconnected]

end Own

section Lent

/-- While a channel is being opened, nobody gets a session and none comes back. -/
lemma log_of_opening (h : History config start log p) (hx : p.sessions[s]? = some x)
    (ho : x.activity.stage = .opening) : ∀ n ∈ log, n.isLent = false ∧ n.isReturned = false := by
  have hready := ready_of_history h
  have hnot : p.ready = false := by
    by_contra hr
    exact hready.opened (by simpa using hr) s x hx ho
  have hcalls := hready.waits hnot
  have hlent : log.countP Note.isLent = 0 := by
    rw [List.countP_eq_zero]
    intro n hn hl
    cases n with
    | lent i t =>
      have hlt := (recorded_of_history h).bound i t hn
      rw [hcalls] at hlt
      simp at hlt
    | _ => cases hl
  have hreturned : log.countP Note.isReturned = 0 := by
    have hheld := (accounts_of_history h).held
    omega
  rw [List.countP_eq_zero] at hlent hreturned
  exact fun n hn => ⟨by simpa using hlent n hn, by simpa using hreturned n hn⟩

/-- A session that somebody has, but no task, and that never came back has never been lent. -/
lemma not_lent_of_spare (h : History config start log p) (hrole : p.role s ≠ none)
    (hkept : ∀ i, .returned i s ∉ log)
    (hfree : ∀ (i : Nat) (c : Call), p.calls[i]? = some c → c.task.session? ≠ some s) :
    ∀ i, .lent i s ∉ log := by
  intro i hlent
  have hrec := recorded_of_history h
  have hc := Array.getElem?_eq_getElem (hrec.bound i s hlent)
  rcases (hrec.told i _ hc).back s hlent with hs | hs | hs
  · exact hfree i _ hc hs
  · exact hkept i hs
  · exact hrole ((ends_once h s).2 (List.countP_pos_iff.2 ⟨_, hs, by simp [Note.isEndOf]⟩))

lemma free_of_idle (hp : Custody p) (hs : s ∈ p.idle) :
    p.role s = some .spare ∧
      ∀ (i : Nat) (c : Call), p.calls[i]? = some c → c.task.session? ≠ some s := by
  have hmem : (s, Place.idle) ∈ p.places :=
    List.mem_append_left _ (List.mem_append_left _ (List.mem_map_of_mem hs))
  refine ⟨(role_eq_some_iff hp.nodup).2 ?_, fun i c hc ht => ?_⟩
  · exact List.mem_append_left _ (List.mem_append_left _ (List.mem_map_of_mem hs))
  · rcases place_of_task hc ht with h | h <;> cases place_unique hp hmem h

lemma free_of_holding (hp : Custody p) (hc : p.calls[i]? = some c) (hph : c.phase = .holding s) :
    p.role s = some .spare ∧
      ∀ (j : Nat) (b : Call), p.calls[j]? = some b → b.task.session? ≠ some s := by
  have hmem : (s, Place.request i) ∈ p.places :=
    List.mem_append_left _ (List.mem_append_right _
      (mem_places_calls.2 ⟨i, c, hc, .inl ⟨.inl hph, rfl⟩⟩))
  refine ⟨(role_eq_some_iff hp.nodup).2 ?_, fun j b hb ht => ?_⟩
  · have hcall : (s, Role.spare) ∈ c.holdings := by
      rw [Call.holdings, hph]
      exact List.mem_cons_self
    exact List.mem_append_left _ (List.mem_append_right _ (List.mem_flatMap.2
      ⟨c, Array.mem_toList_iff.2 (Array.mem_of_getElem? hc), hcall⟩))
  · rcases place_of_task hb ht with h | h <;> cases place_unique hp hmem h
    rw [hc] at hb
    cases hb
    rw [hp.early i c hc (by rw [hph]; rfl)] at ht
    cases ht

end Lent

section Forsaken

/-- How the calls have dealt with a session that never had a channel. -/
structure Forsaken (s : Nat) (log : List Note) (p : Pool) : Prop where
  once : log.countP (Note.lends s) ≤ 1
  kept : ∀ i, .returned i s ∉ log
  fails : ∀ i, .lent i s ∈ log →
    ∃ c, p.calls[i]? = some c ∧ c.task.FailsOn s (unconnected s)

/-- The task of a call with such a session goes on to the error alone: it has no other outcome to
take, no channel to wait for past its drain deadline, and no connected session to put back. -/
lemma failsOn_of_move (hp : Custody p) (h : Move p e q) (hx : p.sessions[s]? = some x)
    (hunopened : x.IsUnopened) (herror : x.notConnected = unconnected s)
    (hc : p.calls[i]? = some c) (hf : c.task.FailsOn s (unconnected s)) :
    ∃ c', q.calls[i]? = some c' ∧ c'.task.FailsOn s (unconnected s) := by
  have hset {j : Nat} {b b' : Call} (hb : p.calls[j]? = some b)
      (hq : q.calls = p.calls.setIfInBounds j b')
      (hkeep : b.task.FailsOn s (unconnected s) → b'.task.FailsOn s (unconnected s)) :
      ∃ c', q.calls[i]? = some c' ∧ c'.task.FailsOn s (unconnected s) := by
    rcases call_after_set hc hb hq with ⟨rfl, hnext⟩ | ⟨-, hnext⟩
    · exact ⟨b', hnext, hkeep hf⟩
    · exact ⟨c, hnext, hf⟩
  have hsame {t : Nat} {y : Session} (hts : t = s) (hy : p.sessions[t]? = some y) : y = x := by
    rw [hts, hx] at hy
    cases hy
    rfl
  cases h with
  | connected | close | shut | lock | allClosed | endNext | endOne | session => exact ⟨c, hc, hf⟩
  | arrive => exact ⟨c, call_after_arrive hc _ _, hf⟩
  | enter _ _ hb | turnAway _ _ hb | refuse _ _ hb | ask _ _ hb | giveUp _ _ hb | permit _ _ hb
  | miss _ _ hb | take _ _ _ _ hb | deliver _ _ _ hb | expireWaiting _ _ hb
  | expireRunning _ _ hb | abandonWaiting _ _ hb | abandonEarly _ _ hb | abandonRunning _ _ hb =>
    exact hset hb rfl fun h => h
  | lend j b _ hb hph =>
    refine hset hb rfl fun h => ?_
    rw [hp.early j b hb (by rw [hph]; rfl)] at h
    cases h
  | begin _ _ _ _ _ hb ht | uncount _ _ _ _ hb ht | reject _ _ _ _ _ hb ht | sealUp _ _ _ hb ht =>
    refine hset hb rfl fun h => ?_
    rw [ht] at h
    exact h
  | settle _ _ t y outcome hb ht hy ha =>
    refine hset hb rfl fun h => ?_
    rw [ht] at h
    cases hsame h hy
    exact ⟨h, by rw [hunopened.fails outcome ha, herror]⟩
  | lapse _ _ _ _ hb ht | repay _ _ _ hb ht =>
    refine hset hb rfl fun h => ?_
    rw [ht] at h
    cases h
  | putBack _ _ t y _ hb ht hy hconnected =>
    refine hset hb rfl fun h => ?_
    rw [ht] at h
    cases hsame h.1 hy
    simp [Session.isConnected, hunopened.silent.cutOff.1] at hconnected
  | drop _ _ _ _ _ hb ht =>
    refine hset hb rfl fun h => ?_
    rw [ht] at h
    dsimp only
    split
    · exact h.2
    · exact h.2
  | drain _ _ t y hb ht _ hy ha hk =>
    refine hset hb rfl fun h => ?_
    rw [ht] at h
    cases hsame h hy
    exact absurd hk (hunopened.claims ha)

lemma lend_of_lent (he : p.act? e = some q) (hn : p.note? e = some (.lent i s)) :
    ∃ c, p.calls[i]? = some c ∧ c.phase = .holding s ∧ q = p.lend i c s := by
  cases noted_of_note hn with
  | lent _ c _ hc hph =>
    refine ⟨c, hc, hph, ?_⟩
    simpa [act?, callStep?, hc, hph] using he.symm
  | session _ _ _ _ _ hs => cases hs

/-- Such a session is lent to one call, which fails, and it is never put back. -/
lemma forsaken_of_act (hist : History config start log p) (he : p.act? e = some q)
    (hx : p.sessions[s]? = some x) (hunopened : x.IsUnopened)
    (herror : x.notConnected = unconnected s) (h : Forsaken s log p) :
    Forsaken s (log ++ (p.note? e).toList) q := by
  have hp := custody_of_history hist
  refine ⟨?_, fun i hi => ?_, fun i hi => ?_⟩
  · rw [count_note]
    cases hlends : (p.note? e).any (Note.lends s) with
    | false => exact h.once
    | true =>
      obtain ⟨note, hn, hnote⟩ := (Option.any_eq_true _ _).1 hlends
      obtain ⟨i, rfl⟩ := Note.lends_iff.1 hnote
      -- whoever has taken it is the first to have it
      obtain ⟨c, hc, hph, -⟩ := lend_of_lent he hn
      obtain ⟨hrole, hfree⟩ := free_of_holding hp hc hph
      have hnone := not_lent_of_spare hist (by rw [hrole]; nofun) h.kept hfree
      rw [Note.countP_lends_eq_zero hnone]
      exact Nat.le_refl 1
  · rcases List.mem_append.1 hi with hi | hi
    · exact h.kept i hi
    · cases noted_of_note (Option.mem_toList.1 hi) with
      | returned _ _ _ y _ _ _ hy hconnected =>
        rw [hx] at hy
        cases hy
        simp [Session.isConnected, hunopened.silent.cutOff.1] at hconnected
      | session _ _ _ _ _ hs => cases hs
  · rcases List.mem_append.1 hi with hi | hi
    · obtain ⟨c, hc, hf⟩ := h.fails i hi
      exact failsOn_of_move hp (move_of_act he) hx hunopened herror hc hf
    · obtain ⟨c, hc, -, rfl⟩ := lend_of_lent he (Option.mem_toList.1 hi)
      have hlt : i < p.calls.size := (Array.getElem?_eq_some_iff.1 hc).1
      exact ⟨_, Array.getElem?_setIfInBounds_self_of_lt hlt, rfl⟩

lemma forsaken_of_opening (h : History config start log p) (hx : p.sessions[s]? = some x)
    (ho : x.activity.stage = .opening) : Forsaken s log q := by
  have hlog := log_of_opening h hx ho
  have hnone (i : Nat) : .lent i s ∉ log := by
    intro hi
    cases (hlog _ hi).1
  refine ⟨?_, fun i hi => ?_, fun i hi => absurd hi (hnone i)⟩
  · rw [Note.countP_lends_eq_zero hnone]
    exact Nat.zero_le 1
  · cases (hlog _ hi).2

lemma note_of_failed {event : Session.Event} (he : event.failsToOpen = true) :
    Happening.note? ⟨p, .session s event, q⟩ = none := by
  cases hn : Happening.note? ⟨p, .session s event, q⟩ with
  | none => rfl
  | some note =>
    cases noted_of_note hn with
    | session _ _ _ _ _ hs => cases hs <;> cases he

theorem forsaken_of_course (h : Course (Pool.opening config start) path p)
    (hx : p.sessions[s]? = some x) (hf : failedToOpen path s = true) :
    Forsaken s (path.filterMap Happening.note?) p := by
  induction h generalizing x with
  | start => cases hf
  | @act path p q e h he ih =>
    have hist := history_of_opening h
    have hp := custody_of_history hist
    have hlt : s < p.sessions.size := by
      have hsize := (Array.getElem?_eq_some_iff.1 hx).1
      rwa [(custody_of_move hp (move_of_act he)).size, config_of_move (move_of_act he),
        ← hp.size] at hsize
    have hy : p.sessions[s]? = some p.sessions[s] := Array.getElem?_eq_getElem hlt
    have hfares := fares_of_course h s _ hy
    rw [filterMap_concat]
    cases hbefore : failedToOpen path s with
    | true =>
      exact forsaken_of_act hist he hy (hfares.unopened hbefore).1
        (notConnected_of_fares hfares) (ih hy hbefore)
    | false =>
      -- the channel fails to open with this event, and until then nobody has been lent a session
      rw [failedToOpen, ownEvents_concat, List.any_append, ← failedToOpen, hbefore,
        Bool.false_or, List.any_eq_true] at hf
      obtain ⟨event, hevent, hfails⟩ := hf
      obtain rfl := event_of_own (Option.mem_toList.1 hevent)
      obtain ⟨y, z, -, hx', hstep, -⟩ := step_of_act he
      rw [note_of_failed hfails, Option.toList_none, List.append_nil]
      exact forsaken_of_opening hist hx' (Session.unopened_of_failed hfails hstep).1
  | wait _ _ ih => exact ⟨(ih hx hf).once, (ih hx hf).kept, (ih hx hf).fails⟩

end Forsaken

section Offered

lemma Course.at_happening (hpath : Course p path q) (hsplit : path = before ++ h :: after) :
    Course p before h.before ∧ h.before.act? h.event = some h.after := by
  induction hpath generalizing after with
  | start => simp at hsplit
  | @act path r _ e hr he ih =>
    rcases List.eq_nil_or_concat after with rfl | ⟨init, last, rfl⟩
    · obtain ⟨rfl, hlast⟩ := List.append_inj' hsplit rfl
      cases hlast
      exact ⟨hr, he⟩
    · rw [List.concat_eq_append, ← List.cons_append, ← List.append_assoc] at hsplit
      exact ih (List.append_inj' hsplit rfl).1
  | wait _ _ ih => exact ih hsplit

/-- What a call finds that gets a session: a channel to send its request on, or that there never was
one, and then nobody has had the session before. -/
def Offers (path : List Happening) (s : Nat) (x : Session) : Prop :=
  (failedToOpen path s = false ∧ x.IsIdle) ∨
    (failedToOpen path s = true ∧ x.IsCutOff ∧ ∀ i, .lent i s ∉ path.filterMap Happening.note?)

lemma offers_of_course (hpath : Course (Pool.opening config start) path p)
    (hready : p.ready = true) (hrole : p.role s = some .spare)
    (hfree : ∀ (i : Nat) (c : Call), p.calls[i]? = some c → c.task.session? ≠ some s) :
    ∃ x, p.sessions[s]? = some x ∧ Offers path s x := by
  have hist := history_of_opening hpath
  obtain ⟨x, hx, -⟩ := admits_of_role (custody_of_history hist) hrole
  have hfares := fares_of_course hpath s x hx
  refine ⟨x, hx, ?_⟩
  cases hf : failedToOpen path s with
  | false =>
    exact .inl ⟨hf, hfares.spare hrole ((ready_of_history hist).opened hready s x hx) hf⟩
  | true =>
    refine .inr ⟨hf, (hfares.unopened hf).1.silent.cutOff, ?_⟩
    exact not_lent_of_spare hist (by rw [hrole]; nofun) (forsaken_of_course hpath hx hf).kept hfree

end Offered

/-- What becomes of a session that never had a channel. -/
structure Unopened (path : List Happening) (p : Pool) (s : Nat) : Prop where
  /-- Nothing is sent or received. Nothing happens but that its users find no channel. -/
  silent : ∀ x, p.sessions[s]? = some x → x.IsSilent
  mute : ∀ e ∈ ownEvents path s, e = .claim ∨ e.failsToOpen = true
  /-- One call at most gets it, which fails with the error that tells this; it never comes back. -/
  forsaken : Forsaken s (path.filterMap Happening.note?) p
  /-- As soon as nobody in the pool has a step to take, the call has failed and the session has been
  disconnected for good. -/
  discarded : p.isQuiet = true → ∀ i, .lent i s ∈ path.filterMap Happening.note? →
    .discarded i s ∈ path.filterMap Happening.note? ∧
      ∃ c, p.calls[i]? = some c ∧ c.task = .finished (.error (unconnected s))

lemma unopened_of_course (hpath : Course (Pool.opening config start) path p)
    (hs : s < config.poolSize) (hf : failedToOpen path s = true) : Unopened path p s := by
  obtain ⟨x, hx⟩ := session_exists hpath hs
  have hist := history_of_opening hpath
  have hunopened := (fares_of_course hpath s x hx).unopened hf
  have hforsaken := forsaken_of_course hpath hx hf
  refine ⟨fun y hy => ?_, hunopened.2, hforsaken, fun hq i hi => ?_⟩
  · rw [hx] at hy
    cases hy
    exact hunopened.1.silent
  · obtain ⟨c, hc, hfails⟩ := hforsaken.fails i hi
    have hthere : c.task.isThere = true := by
      cases ht : c.task with
      | none =>
        rw [ht] at hfails
        cases hfails
      | _ => rfl
    have hwaits := waits_for_channel_of_quiet (custody_of_history hist) (ready_of_history hist) hq
      hc hthere
    rcases hwaits with ⟨outcome, ht⟩ | ⟨t, y, ht, hy, hwait⟩
    · rw [ht] at hfails
      rcases ((recorded_of_history hist).told i c hc).back s hi with hback | hback | hback
      · rw [ht] at hback
        cases hback
      · exact absurd hback (hforsaken.kept i)
      · exact ⟨hback, c, hc, by rw [ht, show outcome = _ from hfails]⟩
    · obtain rfl := TaskPhase.session_of_failsOn hfails ht
      rw [hx] at hy
      cases hy
      exact absurd hwait hunopened.1.not_waitsForChannel

/-- Whom a pool lends what: calls get sessions that have their channel, and each session without one
once. -/
structure LendsConnected (config : ClientConfig) (path : List Happening) (p : Pool) : Prop where
  idle : p.ready = true → ∀ s ∈ p.idle, ∃ x, p.sessions[s]? = some x ∧ Offers path s x
  gets : ∀ before h after i s, path = before ++ h :: after → h.note? = some (.lent i s) →
    ∃ x, h.before.sessions[s]? = some x ∧ Offers before s x
  unopened : ∀ s < config.poolSize, failedToOpen path s = true → Unopened path p s

/-- Whichever channels could not be opened, in every course of calls, errors, timeouts and closes:
an idle session and one that a call gets has its channel, unless it never had one and no call has
had it yet. A session that never had one goes to one call at most, which fails at once without a
message going out, and is then discarded. So no call gets a session that another has left
disconnected. -/
theorem lends_connected (hpath : Course (Pool.opening config start) path p) :
    LendsConnected config path p := by
  refine ⟨fun hready s hs => ?_, fun before h after i s hsplit hn => ?_,
    fun s hs hf => unopened_of_course hpath hs hf⟩
  · obtain ⟨hrole, hfree⟩ := free_of_idle (custody_of_history (history_of_opening hpath)) hs
    exact offers_of_course hpath hready hrole hfree
  · obtain ⟨hbefore, he⟩ := hpath.at_happening hsplit
    have hist := history_of_opening hbefore
    obtain ⟨c, hc, hph, -⟩ := lend_of_lent he hn
    obtain ⟨hrole, hfree⟩ := free_of_holding (custody_of_history hist) hc hph
    refine offers_of_course hbefore ?_ hrole hfree
    by_contra hready
    rw [(ready_of_history hist).waits (by simpa using hready)] at hc
    simp at hc

def threeSessions : ClientConfig :=
  { poolSize := 3, pingInterval := .ofMillis 0, connectionTimeout := .ofMillis 10 }

/-- What a call does until its session is disconnected for want of a channel. -/
def failingCall (i s : Nat) : List Event :=
  [.arrive "g.V()" (.ofMillis 50), .call i, .call i, .call i, .call i, .call i, .begin i ⟨i⟩,
    .session s .claim, .task i, .task i, .task i, .session s .claim, .task i, .call i]

/-- One channel is refused and one is late. Two calls fail, and the third is answered. -/
def refusedRun : List Event :=
  [.session 0 (.opened false), .session 2 (.opened true), .advance (.ofMillis 10),
    .session 1 .openExpired, .connected] ++ failingCall 0 0 ++ failingCall 1 1 ++
  [.arrive "g.V()" (.ofMillis 50), .call 2, .call 2, .call 2, .call 2, .call 2, .begin 2 ⟨2⟩,
    .session 2 .claim, .session 2 (.sent none),
    .session 2 (.received (.ok (some (.text "\x7b\"status\":\x7b\"code\":204\x7d\x7d")))), .task 2,
    .task 2, .task 2, .task 2, .call 2]

theorem lends_connected_of_refusedRun :
    let path := (Pool.opening threeSessions (.ofMillis 0)).happenings refusedRun
    ∃ p, (Pool.opening threeSessions (.ofMillis 0)).run? refusedRun = some p ∧
      (List.range 3).map (failedToOpen path) = [true, true, false] ∧ p.idle = [2] ∧
      LendsConnected threeSessions path p ∧
      .discarded 0 0 ∈ path.filterMap Happening.note? ∧
      .discarded 1 1 ∈ path.filterMap Happening.note? ∧
      .returned 2 2 ∈ path.filterMap Happening.note? := by
  have hrun : ((Pool.opening threeSessions (.ofMillis 0)).run? refusedRun).any
      (fun p => p.idle = [2]) = true := by
    decide +kernel
  obtain ⟨p, hp, hidle⟩ := (Option.any_eq_true _ _).1 hrun
  exact ⟨p, hp, by decide +kernel, of_decide_eq_true hidle, lends_connected (course_of_run hp),
    by decide +kernel, by decide +kernel, by decide +kernel⟩

end Pool

end GraphClient
