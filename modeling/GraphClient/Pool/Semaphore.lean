/-!
# Semaphore

Permits for callers in the order in which they ask. A permit that comes free while somebody waits
goes to the first who waits; a closed semaphore gives out none.
-/

namespace GraphClient

/-- Free permits, those who wait for one in their order, and those who were given one but have not
seen it yet. -/
structure Semaphore where
  permits : Nat
  waiting : List Nat
  granted : List Nat
  closed : Bool
  deriving DecidableEq, Repr

namespace Semaphore

def new (permits : Nat) : Semaphore := ⟨permits, [], [], false⟩

/-- A caller takes a free permit or begins to wait. -/
def ask (s : Semaphore) (caller : Nat) : Semaphore :=
  match s.permits with
  | 0 => { s with waiting := s.waiting ++ [caller] }
  | permits + 1 => { s with permits, granted := s.granted ++ [caller] }

/-- One more permit, for the first who waits if there is one. -/
def release (s : Semaphore) : Semaphore :=
  match s.waiting with
  | [] => { s with permits := s.permits + 1 }
  | caller :: rest => { s with waiting := rest, granted := s.granted ++ [caller] }

/-- A caller uses up the permit that it was given. -/
def consume (s : Semaphore) (caller : Nat) : Semaphore :=
  { s with granted := s.granted.erase caller }

/-- A caller no longer waits; a permit that it was given goes on to the next. -/
def leave (s : Semaphore) (caller : Nat) : Semaphore :=
  if caller ∈ s.granted then (s.consume caller).release
  else { s with waiting := s.waiting.erase caller }

def close (s : Semaphore) : Semaphore := { s with closed := true }

/-- Permits that are free or given out but not yet used up. -/
def available (s : Semaphore) : Nat := s.permits + s.granted.length

theorem available_ask (s : Semaphore) (caller : Nat) :
    (s.ask caller).available = s.available := by
  obtain ⟨permits, waiting, granted, closed⟩ := s
  cases permits with
  | zero => rfl
  | succ permits =>
    simp only [ask, available, List.length_append, List.length_singleton]
    omega

theorem available_release (s : Semaphore) : s.release.available = s.available + 1 := by
  obtain ⟨permits, waiting, granted, closed⟩ := s
  cases waiting <;> simp [release, available] <;> omega

theorem available_consume {s : Semaphore} {caller : Nat} (h : caller ∈ s.granted) :
    (s.consume caller).available + 1 = s.available := by
  have := List.length_pos_of_mem h
  simp only [consume, available, List.length_erase_of_mem h]
  omega

theorem available_leave (s : Semaphore) (caller : Nat) :
    (s.leave caller).available = s.available := by
  by_cases h : caller ∈ s.granted
  · simp [leave, h, available_release, available_consume]
  · simp [leave, h, available]

end Semaphore

end GraphClient
