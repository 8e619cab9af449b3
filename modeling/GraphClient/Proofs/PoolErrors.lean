import GraphClient.Proofs.History

/-!
# Errors that only a pool makes

A session never says that the pool is exhausted or that the time is up. Neither the server nor the
channel can make it say so, whatever they send and however they fail.
-/

namespace GraphClient

namespace ErrorKind

/-- Only a pool makes such errors. -/
def isPools : ErrorKind → Bool
  | poolExhausted | timeout => true
  | _ => false

end ErrorKind

namespace Activity

def error? : Activity → Option ClientError
  | closingAfter e => some e
  | finished (.error e) => some e
  | _ => none

end Activity

namespace Exchange

variable {x : Exchange} {decoder : GraphSON.Decoder} {f : Response} {e : ClientError}

lemma onChallenge_fail (h : (x.onChallenge f).2 = .fail e) : e.kind.isPools = false := by
  unfold onChallenge at h
  split at h
  · cases h
    rfl
  · split at h <;> cases h
    rfl

lemma kind_of_ofStatus {code : Nat} {message : String}
    (h : ClientError.ofStatus? code message = some e) : e.kind.isPools = false := by
  unfold ClientError.ofStatus? at h
  split at h
  · cases h
    rfl
  · rename_i known _
    cases known <;> cases h <;> rfl

/-- The server cannot make a request end with an error of the pool. -/
lemma onFrame_fail (h : (x.onFrame decoder f).2 = .fail e) : e.kind.isPools = false := by
  unfold onFrame at h
  split at h
  · cases h
  · split at h
    · cases h
      rfl
    · split at h
      · exact onChallenge_fail h
      · exact onChallenge_fail h
      · cases h
      · cases h
      · cases h
      · split at h
        · rename_i hstatus
          cases h
          exact kind_of_ofStatus hstatus
        · cases h
          rfl

end Exchange

namespace Session

/-- No request of the session ends with an error of the pool. -/
def IsSincere (x : Session) : Prop :=
  ∀ e, x.activity.error? = some e → e.kind.isPools = false

variable {config : ClientConfig} {now : Instant} {x y : Session} {c : Conversation}

lemma isSincere_of_conversation (h : x.activity.conversation? = some c) : x.IsSincere := by
  intro e he
  cases ha : x.activity <;> simp_all [Activity.conversation?, Activity.error?]

lemma conclude_ok_isSincere (values : List Value) : (x.conclude (.ok values)).IsSincere := nofun

lemma conclude_error_isSincere {e : ClientError} (he : e.kind.isPools = false) :
    (x.conclude (.error e)).IsSincere := by
  intro e' h
  unfold conclude at h
  dsimp only at h
  split at h <;> cases h <;> exact he

lemma onFrame_isSincere (frame : Response) : (x.onFrame config c frame).IsSincere := by
  unfold onFrame
  dsimp only
  split
  · exact isSincere_of_conversation rfl
  · exact conclude_ok_isSincere _
  · rename_i ht
    exact conclude_error_isSincere (Exchange.onFrame_fail ht)
  · split
    · exact conclude_error_isSincere rfl
    · exact isSincere_of_conversation rfl

lemma onPayload_isSincere (payload : Except TransportError Response) :
    (x.onPayload config c payload).IsSincere := by
  unfold onPayload
  split
  · exact onFrame_isSincere _
  · exact conclude_error_isSincere rfl

lemma toClientError_kind (e : TransportError) : e.toClientError.kind.isPools = false := by
  cases e <;> rfl

lemma onReceived_isSincere (result : Except TransportError (Option Message)) :
    (x.onReceived config c result).IsSincere := by
  unfold onReceived
  split
  · exact conclude_error_isSincere (toClientError_kind _)
  · exact conclude_error_isSincere rfl
  · unfold onMessage
    split
    · exact onPayload_isSincere _
    · exact onPayload_isSincere _
    · exact isSincere_of_conversation rfl
    · exact isSincere_of_conversation rfl
    · exact conclude_error_isSincere rfl

lemma Proceeds.isSincere {e : Event} (h : x.Proceeds config now e y) (hx : x.IsSincere) :
    y.IsSincere := by
  cases h with
  | opened | openExpired | claimRequest | claimEnd | claimEnded | sentRequest | sentPong
  | sentAnswer | closedEnd => nofun
  | claimNothing =>
    intro e he
    cases he
    rfl
  | sendFailed => exact conclude_error_isSincere (toClientError_kind _)
  | received => exact onReceived_isSincere _
  | closedAfter e ha =>
    intro e' he
    cases he
    exact hx e (by rw [ha]; rfl)
  | keepalive => exact hx

end Session

namespace Pool

variable {config : ClientConfig} {start : Instant} {log : List Note} {p q : Pool} {e : Event}

lemma isSincere_of_turn {r r' : Option Role} {x y : Session} (h : Turn r x r' y)
    (hx : x.IsSincere) : y.IsSincere := by
  cases h with
  | putBack => exact hx
  | _ => nofun

lemma sincere_of_move (hp : Custody p) (h : Move p e q)
    (hf : ∀ (s : Nat) (x : Session), p.sessions[s]? = some x → x.IsSincere) :
    ∀ (s : Nat) (x : Session), q.sessions[s]? = some x → x.IsSincere := by
  rcases proceeds_or_shift hp h with ⟨s, event, x, y, -, hx, hxy, rfl⟩ | ⟨-, hshift⟩
  · exact forall_setIfInBounds hf (hxy.isSincere (hf s x hx))
  · cases hshift with
    | keep _ hs =>
      rw [hs]
      exact hf
    | turn s x y r r' hx hs _ _ _ ht =>
      rw [hs]
      exact forall_setIfInBounds hf (isSincere_of_turn ht (hf s x hx))

/-- No session of a pool makes an error that is the pool's to make. -/
theorem sincere_of_history (h : History config start log p) :
    ∀ (s : Nat) (x : Session), p.sessions[s]? = some x → x.IsSincere := by
  induction h with
  | opening =>
    intro s x hx
    simp [Pool.opening] at hx
    obtain ⟨_, -, rfl⟩ := hx
    intro e he
    cases he
  | act h he ih => exact sincere_of_move (custody_of_history h) (move_of_act he) ih
  | wait _ _ ih => exact ih

end Pool

end GraphClient
