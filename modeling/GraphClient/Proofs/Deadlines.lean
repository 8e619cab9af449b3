import GraphClient.Proofs.DrainDeadline

/-!
# Deadlines of a call

A call has two deadlines: its timeout after its start, and the drain timeout after that. The far
future stands in for one that the clock cannot show. It is an instant of the clock as well, so each
of the two additions needs room of its own, and the room after the start is not the room after the
first deadline.
-/

namespace GraphClient

namespace Instant

variable {start t : Instant} {d : Duration}

lemma add_eq_some_iff :
    start.add? d = some t ↔ t = ⟨start.nanos + d.nanos⟩ ∧ t.nanos < limit := by
  unfold add?
  constructor
  · intro h
    split at h <;> cases h
    exact ⟨rfl, by assumption⟩
  · rintro ⟨rfl, h⟩
    exact if_pos h

lemma deadline_eq_some_iff :
    start.deadline? d = some t ↔ t = start.deadlineAfter d ∧ t.nanos < limit := by
  unfold deadline? deadlineAfter
  cases hd : start.add? d with
  | some u =>
    have hu : u.nanos < limit := (add_eq_some_iff.1 hd).2
    rw [Option.some_or, Option.getD_some, Option.some_inj]
    constructor
    · rintro rfl
      exact ⟨rfl, hu⟩
    · rintro ⟨rfl, -⟩
      rfl
  | none =>
    rw [Option.none_or, Option.getD_none]
    exact add_eq_some_iff

/-- The clock can show a deadline exactly if it can show the nearer of the two instants that may
stand for it. -/
lemma deadlineAfter_lt_limit_iff : (start.deadlineAfter d).nanos < limit ↔
    start.nanos + min d.nanos farFuture.nanos < limit := by
  unfold deadlineAfter
  cases hd : start.add? d with
  | some u =>
    obtain ⟨rfl, hu⟩ := add_eq_some_iff.1 hd
    have hle : start.nanos + min d.nanos farFuture.nanos ≤ start.nanos + d.nanos :=
      Nat.add_le_add_left (Nat.min_le_left _ _) _
    exact iff_of_true hu (Nat.lt_of_le_of_lt hle hu)
  | none =>
    have hno : ¬start.nanos + d.nanos < limit := fun h => by
      rw [add_eq_some_iff.2 ⟨rfl, h⟩] at hd
      cases hd
    rw [Option.getD_none]
    dsimp only
    omega

lemma isSome_deadline_iff : (start.deadline? d).isSome ↔
    start.nanos + min d.nanos farFuture.nanos < limit := by
  rw [← deadlineAfter_lt_limit_iff, Option.isSome_iff_exists]
  constructor
  · rintro ⟨t, ht⟩
    obtain ⟨rfl, hlt⟩ := deadline_eq_some_iff.1 ht
    exact hlt
  · exact fun hlt => ⟨_, deadline_eq_some_iff.2 ⟨rfl, hlt⟩⟩

end Instant

namespace Pool

variable {p q : Pool} {script : String} {timeout : Duration} {deadline : Instant}

lemma step_arrive (hready : p.ready = true) : p.step? (.arrive script timeout) =
    if p.showsDeadlines timeout then some (p.arrive script timeout) else none := by
  simp [step?, act?, hready]

lemma showsDeadlines_iff (hd : p.now.deadline? timeout = some deadline) :
    p.showsDeadlines timeout = true ↔
      deadline.nanos + min p.config.drainTimeout.nanos Instant.farFuture.nanos <
        Instant.limit := by
  rw [showsDeadlines, hd, Option.bind_some, Instant.isSome_deadline_iff]

/-- A call that is made has the deadlines that the clock shows. -/
lemma call_of_arrive (hd : p.now.deadline? timeout = some deadline)
    (h : p.step? (.arrive script timeout) = some q) :
    ∃ c, q.calls = p.calls.push c ∧ c.deadline = deadline ∧
      deadline.deadline? p.config.drainTimeout = some c.drainDeadline ∧
      deadline ≤ c.drainDeadline := by
  obtain ⟨rfl, -⟩ := Instant.deadline_eq_some_iff.1 hd
  simp only [step?, act?] at h
  split at h
  · rename_i hshows
    cases h
    refine ⟨_, rfl, rfl, ?_, Instant.le_deadlineAfter⟩
    rw [Instant.deadline_eq_some_iff, Instant.deadlineAfter_lt_limit_iff]
    exact ⟨rfl, (showsDeadlines_iff hd).1 hshows.2⟩
  · cases h

/-- The deadline of a call is not further ahead than the far future, unless the timeout is longer
than that and the clock can show where it ends. -/
lemma deadline_near (hd : p.now.deadline? timeout = some deadline)
    (hwait : timeout.nanos ≤ Instant.farFuture.nanos ∨
      Instant.limit ≤ p.now.nanos + timeout.nanos) :
    deadline.nanos ≤ p.now.nanos + Instant.farFuture.nanos := by
  obtain ⟨rfl, -⟩ := Instant.deadline_eq_some_iff.1 hd
  rw [Instant.deadlineAfter, Instant.add?]
  split
  · rcases hwait with hwait | hwait
    · exact Nat.add_le_add_left hwait _
    · omega
  · exact Nat.le_refl _

/-- A call that begins while the clock can show the far future has a deadline, and that is not
before its start. The call is made if the drain timeout or the far future after the deadline can be
shown as well, and its drain deadline is then not before its deadline; else it fails. If the clock
can show the far future twice over then every call is made whose timeout is not longer than the far
future or goes beyond the clock. -/
theorem deadlines_of_arrive (p : Pool) (script : String) (timeout : Duration)
    (hready : p.ready = true) (hroom : p.now.nanos + Instant.farFuture.nanos < Instant.limit) :
    ∃ deadline, p.now.deadline? timeout = some deadline ∧ p.now ≤ deadline ∧
      ((p.step? (.arrive script timeout)).isSome ↔
        deadline.nanos + min p.config.drainTimeout.nanos Instant.farFuture.nanos <
          Instant.limit) ∧
      (∀ q, p.step? (.arrive script timeout) = some q →
        ∃ c, q.calls = p.calls.push c ∧ c.deadline = deadline ∧
          deadline.deadline? p.config.drainTimeout = some c.drainDeadline ∧
          deadline ≤ c.drainDeadline) ∧
      (p.now.nanos + 2 * Instant.farFuture.nanos < Instant.limit →
        timeout.nanos ≤ Instant.farFuture.nanos ∨ Instant.limit ≤ p.now.nanos + timeout.nanos →
        (p.step? (.arrive script timeout)).isSome) := by
  have hshown : (p.now.deadlineAfter timeout).nanos < Instant.limit := by
    rw [Instant.deadlineAfter_lt_limit_iff]
    omega
  have hd : p.now.deadline? timeout = some (p.now.deadlineAfter timeout) :=
    Instant.deadline_eq_some_iff.2 ⟨rfl, hshown⟩
  have hmade : (p.step? (.arrive script timeout)).isSome ↔
      (p.now.deadlineAfter timeout).nanos +
        min p.config.drainTimeout.nanos Instant.farFuture.nanos < Instant.limit := by
    rw [← showsDeadlines_iff hd, step_arrive hready]
    split <;> simp_all
  refine ⟨_, hd, Instant.le_deadlineAfter, hmade, fun q => call_of_arrive hd,
    fun htwice hwait => hmade.2 ?_⟩
  have hnear := deadline_near hd hwait
  omega

/-- A pool that drains its requests for as long as it takes. -/
def patientPool : Pool :=
  { Pool.opening { poolSize := 1, drainTimeout := .longest } (.ofMillis 0) with ready := true }

/-- The last but a few years of what the clock can show is a deadline, and nothing can follow on
it. -/
theorem no_drainDeadline_of_hugeTimeout :
    patientPool.ready = true ∧
    patientPool.now.nanos + Instant.farFuture.nanos < Instant.limit ∧
    patientPool.now.deadline? (.ofSeconds 9223372036000000000) =
      some ⟨9223372036000000000 * 1000000000⟩ ∧
    patientPool.step? (.arrive "g.V()" (.ofSeconds 9223372036000000000)) = none := by
  have hroom : patientPool.now.nanos + Instant.farFuture.nanos < Instant.limit := by decide
  obtain ⟨deadline, hd, -, hmade, -⟩ :=
    deadlines_of_arrive patientPool "g.V()" (.ofSeconds 9223372036000000000) rfl hroom
  have hdeadline : patientPool.now.deadline? (.ofSeconds 9223372036000000000) =
      some ⟨9223372036000000000 * 1000000000⟩ := by decide
  rw [hdeadline] at hd
  cases hd
  refine ⟨rfl, hroom, hdeadline, ?_⟩
  rw [← Option.not_isSome_iff_eq_none, hmade]
  decide

end Pool

end GraphClient
