import GraphClient.Session.Exchange
import Mathlib.Tactic.Common

/-!
# Runs of an exchange

What an exchange makes of the frames that it is fed, up to the one that ends it. The frames of other
requests leave no trace, partial results add up across a challenge, and the code of the last frame
decides the outcome.
-/

namespace GraphClient

namespace Transition

/-- The exchange is over. -/
def isEnd : Transition → Bool
  | complete _ | fail _ => true
  | proceed | authenticate => false

end Transition

namespace Response

/-- The frame does not name another request. -/
def isFor (f : Response) (id : Uuid) : Bool := f.requestUuid?.all (· == id)

def isPartial (f : Response) : Bool := f.status.code = 206

def isChallenge (f : Response) : Bool := f.status.code = 401 ∨ f.status.code = 407

end Response

namespace Exchange

/-- An exchange is fed frames until one of them ends it. -/
def feed (decoder : GraphSON.Decoder) (x : Exchange) : List Response → Exchange × List Transition
  | [] => (x, [])
  | f :: frames =>
    let (y, t) := x.onFrame decoder f
    if t.isEnd then (y, [t])
    else
      let (z, ts) := feed decoder y frames
      (z, t :: ts)

variable (id : Uuid) (hasCredentials : Bool) (decoder : GraphSON.Decoder)

/-- The frames that do not name another request. -/
def own (frames : List Response) : List Response := frames.filter (·.isFor id)

/-- After some frames, one more does not end the exchange: it is of another request, it is partial,
or it is the first challenge and there are credentials. -/
def Passes (before : List Response) (f : Response) : Prop :=
  f.isFor id = true → f.isPartial = true ∨
    (f.isChallenge = true ∧ hasCredentials = true ∧ ∀ g ∈ own id before, g.isChallenge = false)

/-- Frames none of which ends the exchange. -/
inductive Pending : List Response → Prop
  | nil : Pending []
  | concat (before : List Response) (f : Response) (hb : Pending before)
      (hf : Passes id hasCredentials before f) : Pending (before ++ [f])

/-- The results of all partial frames, in their order. -/
def gathered (frames : List Response) : List Value :=
  ((own id frames).filter (·.isPartial)).flatMap fun f => decoder.results f.data?

/-- What a frame calls for that does not end the exchange. -/
def reply (f : Response) : Transition :=
  if f.isFor id ∧ f.isChallenge then .authenticate else .proceed

/-- What the frame that ends the exchange calls for. -/
def verdict (before : List Response) (f : Response) : Transition :=
  match f.status.code with
  | 200 => .complete (gathered id decoder before ++ decoder.results f.data?)
  | 204 => .complete (gathered id decoder before)
  | 401 | 407 =>
    .fail (if hasCredentials then .unauthorized f.status.text else .missingCredentials)
  | 409 | 498 => .fail ⟨.malformedRequest, f.status.text⟩
  | 499 => .fail ⟨.invalidRequestArguments, f.status.text⟩
  | 500 => .fail ⟨.serverError, f.status.text⟩
  | 597 => .fail ⟨.scriptEvaluation, f.status.text⟩
  | 598 => .fail ⟨.serverTimeout, f.status.text⟩
  | 599 => .fail ⟨.serverSerialization, f.status.text⟩
  | code => .fail (.unexpectedStatus code f.status.text)

/-- How an exchange is after frames that did not end it. -/
structure Reached (before : List Response) (x : Exchange) : Prop where
  requestId : x.requestId = id
  hasCredentials : x.hasCredentials = hasCredentials
  authenticated : x.authenticated = (own id before).any (·.isChallenge)
  results : x.results = gathered id decoder before

variable {id : Uuid} {hasCredentials : Bool} {decoder : GraphSON.Decoder}
variable {x : Exchange} {before : List Response} {f : Response}

lemma isForeign_eq (x : Exchange) (f : Response) : x.isForeign f = !f.isFor x.requestId := by
  unfold isForeign Response.isFor
  cases f.requestUuid? with
  | none => rfl
  | some id => rfl

lemma onFrame_of_foreign (decoder : GraphSON.Decoder) (h : f.isFor x.requestId = false) :
    x.onFrame decoder f = (x, .proceed) := by
  rw [onFrame, isForeign_eq, h]
  rfl

lemma feed_cons_of_end (frames : List Response) (h : (x.onFrame decoder f).2.isEnd = true) :
    x.feed decoder (f :: frames) = ((x.onFrame decoder f).1, [(x.onFrame decoder f).2]) := by
  unfold feed
  dsimp only
  rw [if_pos h]

lemma feed_cons_of_not_end (frames : List Response)
    (h : (x.onFrame decoder f).2.isEnd = false) :
    x.feed decoder (f :: frames) =
      (((x.onFrame decoder f).1.feed decoder frames).1,
        (x.onFrame decoder f).2 :: ((x.onFrame decoder f).1.feed decoder frames).2) := by
  rw [feed]
  dsimp only
  rw [if_neg (by rw [h]; simp)]

/-- A frame changes neither what an exchange is for nor whether it has credentials. -/
lemma onFrame_same (x : Exchange) (decoder : GraphSON.Decoder) (f : Response) :
    (x.onFrame decoder f).1.requestId = x.requestId ∧
      (x.onFrame decoder f).1.hasCredentials = x.hasCredentials := by
  unfold onFrame
  split
  · exact ⟨rfl, rfl⟩
  · split
    · exact ⟨rfl, rfl⟩
    · split
      · unfold onChallenge
        split
        · exact ⟨rfl, rfl⟩
        · split <;> exact ⟨rfl, rfl⟩
      · unfold onChallenge
        split
        · exact ⟨rfl, rfl⟩
        · split <;> exact ⟨rfl, rfl⟩
      · exact ⟨rfl, rfl⟩
      · exact ⟨rfl, rfl⟩
      · exact ⟨rfl, rfl⟩
      · split <;> exact ⟨rfl, rfl⟩

lemma onChallenge_authenticate (h : (x.onChallenge f).2 = .authenticate) :
    x.hasCredentials = true := by
  unfold onChallenge at h
  split at h
  · cases h
  · rename_i hc
    simpa using hc

/-- Only an exchange with credentials calls for them. -/
lemma onFrame_authenticate (h : (x.onFrame decoder f).2 = .authenticate) :
    x.hasCredentials = true := by
  unfold onFrame at h
  split at h
  · cases h
  · split at h
    · cases h
    · split at h
      · exact onChallenge_authenticate h
      · exact onChallenge_authenticate h
      · cases h
      · cases h
      · cases h
      · split at h <;> cases h

lemma own_concat : own id (before ++ [f]) = own id before ++ if f.isFor id then [f] else [] := by
  rw [own, List.filter_append, List.filter_cons, List.filter_nil]
  rfl

lemma gathered_concat :
    gathered id decoder (before ++ [f]) = gathered id decoder before ++
      if f.isFor id ∧ f.isPartial then decoder.results f.data? else [] := by
  rw [gathered, own_concat]
  cases f.isFor id <;> cases hp : f.isPartial <;> simp [gathered, hp]

lemma isEnd_verdict : (verdict id hasCredentials decoder before f).isEnd = true := by
  unfold verdict
  split <;> rfl

lemma isEnd_reply : (reply id f).isEnd = false := by
  unfold reply
  split <;> rfl

lemma onFrame_of_passes (hx : Reached id hasCredentials decoder before x)
    (hf : Passes id hasCredentials before f) :
    (x.onFrame decoder f).2 = reply id f ∧
      Reached id hasCredentials decoder (before ++ [f]) (x.onFrame decoder f).1 := by
  obtain ⟨hid, hcred, hauth, hres⟩ := hx
  cases hown : f.isFor id with
  | false =>
    rw [onFrame_of_foreign decoder (by rw [hid, hown])]
    refine ⟨by simp [reply, hown], hid, hcred, ?_, ?_⟩
    · rw [own_concat, hown, hauth]
      simp
    · rw [gathered_concat, hown, hres]
      simp
  | true =>
    have hforeign : x.isForeign f = false := by rw [isForeign_eq, hid, hown]; rfl
    rcases hf hown with hp | ⟨hc, hcreds, hfirst⟩
    · have hcode : f.status.code = 206 := by simpa [Response.isPartial] using hp
      have hn : f.isChallenge = false := by simp [Response.isChallenge, hcode]
      simp only [onFrame, hforeign, Response.code?, hcode, ResponseCode.ofCode?]
      refine ⟨by simp [reply, hn], hid, hcred, ?_, ?_⟩
      · rw [own_concat, hauth]
        simp [hown, hn]
      · rw [gathered_concat]
        simp [hown, hp, hres]
    · have hnone : x.authenticated = false := by
        rw [hauth, List.any_eq_false]
        intro g hg
        rw [hfirst g hg]
        simp
      have hstep : x.onFrame decoder f =
          ({ x with authenticated := true, state := .sending }, .authenticate) := by
        rcases (by simpa [Response.isChallenge] using hc : _ ∨ _) with hcode | hcode <;>
          simp [onFrame, hforeign, Response.code?, hcode, ResponseCode.ofCode?, onChallenge, hcred,
            hcreds, hnone]
      have hn : f.isPartial = false := by
        rcases (by simpa [Response.isChallenge] using hc : _ ∨ _) with hcode | hcode <;>
          simp [Response.isPartial, hcode]
      rw [hstep]
      refine ⟨by simp [reply, hown, hc], hid, hcred, ?_, ?_⟩
      · rw [own_concat]
        simp [hown, hc]
      · rw [gathered_concat]
        simp [hn, hres]

lemma onFrame_of_error {code : Nat} {known : ResponseCode} {kind : ErrorKind}
    (hforeign : x.isForeign f = false) (hcode : f.status.code = code)
    (hknown : ResponseCode.ofCode? code = some known) (hkind : known.errorKind? = some kind) :
    (x.onFrame decoder f).2 = .fail ⟨kind, f.status.text⟩ := by
  have hstatus : ClientError.ofStatus? code f.status.text = some ⟨kind, f.status.text⟩ := by
    rw [ClientError.ofStatus?, hknown]
    simp [hkind]
  rw [onFrame, hforeign, Response.code?, hcode, hknown]
  cases known with
  | success | noContent | partialContent | unauthorized | authenticate => cases hkind
  | _ =>
    dsimp only
    rw [hstatus]
    rfl

/-- A challenge that there is no answer to ends the exchange. -/
lemma onFrame_of_challenge (hforeign : x.isForeign f = false)
    (hcode : f.status.code = 401 ∨ f.status.code = 407)
    (hagain : x.hasCredentials = true → x.authenticated = true) :
    (x.onFrame decoder f).2 =
      .fail (if x.hasCredentials then .unauthorized f.status.text else .missingCredentials) := by
  have hstep : x.onFrame decoder f = x.onChallenge f := by
    rcases hcode with hcode | hcode <;>
      simp [onFrame, hforeign, Response.code?, hcode, ResponseCode.ofCode?]
  rw [hstep, onChallenge]
  cases hc : x.hasCredentials with
  | false => rfl
  | true =>
    rw [hagain hc]
    rfl

lemma onFrame_of_unknown (hforeign : x.isForeign f = false)
    (hcode : ResponseCode.ofCode? f.status.code = none) :
    (x.onFrame decoder f).2 = .fail (.unexpectedStatus f.status.code f.status.text) := by
  rw [onFrame, hforeign, Response.code?, hcode]
  rfl

lemma onFrame_of_not_passes (hx : Reached id hasCredentials decoder before x)
    (hf : ¬Passes id hasCredentials before f) :
    (x.onFrame decoder f).2 = verdict id hasCredentials decoder before f := by
  obtain ⟨hid, rfl, hauth, hres⟩ := hx
  simp only [Passes, Classical.not_imp, not_or, not_and, not_forall] at hf
  obtain ⟨hown, hp, hc⟩ := hf
  have hforeign : x.isForeign f = false := by rw [isForeign_eq, hid, hown]; rfl
  have hagain (hcode : f.status.code = 401 ∨ f.status.code = 407)
      (hcreds : x.hasCredentials = true) : x.authenticated = true := by
    obtain ⟨g, hg, hgc⟩ := hc (by simpa [Response.isChallenge] using hcode) hcreds
    rw [hauth, List.any_eq_true]
    exact ⟨g, hg, by simpa using hgc⟩
  unfold verdict
  split
  case h_1 hcode =>
    simp [onFrame, hforeign, Response.code?, hcode, ResponseCode.ofCode?, completeWith, hres]
  case h_2 hcode =>
    simp [onFrame, hforeign, Response.code?, hcode, ResponseCode.ofCode?, completeWith, hres]
  case h_3 hcode => exact onFrame_of_challenge hforeign (.inl hcode) (hagain (.inl hcode))
  case h_4 hcode => exact onFrame_of_challenge hforeign (.inr hcode) (hagain (.inr hcode))
  case h_12 =>
    apply onFrame_of_unknown hforeign
    have hpartial : f.status.code ≠ 206 := by simpa [Response.isPartial] using hp
    unfold ResponseCode.ofCode?
    split <;> simp_all
  all_goals
    rename_i hcode
    exact onFrame_of_error hforeign hcode rfl rfl

lemma reached_new (id : Uuid) (hasCredentials : Bool) (decoder : GraphSON.Decoder) :
    Reached id hasCredentials decoder [] (new id hasCredentials) :=
  ⟨rfl, rfl, rfl, rfl⟩

/-- An exchange that some frames have not ended, fed with more. -/
lemma feed_of_reached (hb : Pending id hasCredentials before)
    (hx : Reached id hasCredentials decoder before x) (frames : List Response) :
    (Pending id hasCredentials (before ++ frames) ∧
      Reached id hasCredentials decoder (before ++ frames) (x.feed decoder frames).1 ∧
      (x.feed decoder frames).2 = frames.map (reply id)) ∨
    ∃ mid f rest, frames = mid ++ f :: rest ∧ Pending id hasCredentials (before ++ mid) ∧
      ¬Passes id hasCredentials (before ++ mid) f ∧
      (x.feed decoder frames).2 =
        mid.map (reply id) ++ [verdict id hasCredentials decoder (before ++ mid) f] := by
  -- on what is left to feed, with the frames that have been fed as a parameter
  induction frames generalizing x before with
  | nil => exact .inl ⟨by rwa [List.append_nil], by rwa [List.append_nil], rfl⟩
  | cons f frames ih =>
    by_cases hf : Passes id hasCredentials before f
    · obtain ⟨hreply, hy⟩ := onFrame_of_passes hx hf
      have hfeed : x.feed decoder (f :: frames) =
          (((x.onFrame decoder f).1.feed decoder frames).1,
            reply id f :: ((x.onFrame decoder f).1.feed decoder frames).2) := by
        rw [feed_cons_of_not_end frames (by rw [hreply, isEnd_reply]), hreply]
      rw [hfeed, List.append_cons]
      rcases ih (.concat before f hb hf) hy with
        ⟨hp, hz, hts⟩ | ⟨mid, g, rest, rfl, hp, hg, hts⟩
      · exact .inl ⟨hp, hz, by rw [hts, List.map_cons]⟩
      · rw [← List.append_cons] at hp hg hts
        exact .inr ⟨f :: mid, g, rest, rfl, hp, hg, by rw [hts]; rfl⟩
    · have hverdict := onFrame_of_not_passes hx hf
      refine .inr ⟨[], f, frames, rfl, by rwa [List.append_nil], by rwa [List.append_nil], ?_⟩
      rw [feed_cons_of_end frames (by rw [hverdict, isEnd_verdict]), hverdict, List.append_nil]
      rfl

/-- Frames of other requests are as if they had not come. -/
lemma feed_own (frames : List Response) (hid : x.requestId = id) :
    (x.feed decoder frames).1 = (x.feed decoder (own id frames)).1 := by
  induction frames generalizing x with
  | nil => rfl
  | cons f frames ih =>
    cases hown : f.isFor id with
    | false =>
      have hstep := onFrame_of_foreign decoder (x := x) (f := f) (by rw [hid, hown])
      have hlist : own id (f :: frames) = own id frames := by simp [own, hown]
      rw [feed_cons_of_not_end frames (by rw [hstep]; rfl), hstep, hlist]
      exact ih hid
    | true =>
      have hlist : own id (f :: frames) = f :: own id frames := by simp [own, hown]
      rw [hlist]
      cases hend : (x.onFrame decoder f).2.isEnd with
      | false =>
        rw [feed_cons_of_not_end frames hend, feed_cons_of_not_end (own id frames) hend]
        exact ih ((onFrame_same x decoder f).1.trans hid)
      | true => rw [feed_cons_of_end frames hend, feed_cons_of_end (own id frames) hend]

/-- Whatever frames come for a request: those of other requests leave no trace; while no frame ends
the exchange, the first challenge is answered and every other frame is passed over; and the first
frame that ends it decides the outcome by its code. -/
theorem feed_new (id : Uuid) (hasCredentials : Bool) (decoder : GraphSON.Decoder)
    (frames : List Response) :
    ((new id hasCredentials).feed decoder frames).1 =
        ((new id hasCredentials).feed decoder (own id frames)).1 ∧
      ((Pending id hasCredentials frames ∧
          ((new id hasCredentials).feed decoder frames).1.results = gathered id decoder frames ∧
          ((new id hasCredentials).feed decoder frames).2 = frames.map (reply id)) ∨
        ∃ before f rest, frames = before ++ f :: rest ∧ Pending id hasCredentials before ∧
          ¬Passes id hasCredentials before f ∧
          ((new id hasCredentials).feed decoder frames).2 =
            before.map (reply id) ++ [verdict id hasCredentials decoder before f]) := by
  refine ⟨feed_own frames rfl, ?_⟩
  rcases feed_of_reached .nil (reached_new id hasCredentials decoder) frames with
    ⟨hp, hx, hts⟩ | ⟨before, f, rest, he, hp, hf, hts⟩
  · exact .inl ⟨hp, hx.results, hts⟩
  · exact .inr ⟨before, f, rest, he, hp, hf, hts⟩

end Exchange

end GraphClient
