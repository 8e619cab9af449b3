import GraphClient.Message.Request
import GraphClient.Proofs.ExchangeRuns
import GraphClient.Proofs.UuidTexts

/-!
# Requests and the frames that name them

A server gives the identifier of a request back in an envelope, as the request has it, or as a bare
text, and may spell it in another form or with capital digits. In every spelling it is the identifier
of that request and of no other: the exchange of that request takes the frame up by its status code,
and every other exchange is left as it was.
-/

namespace GraphClient

open GraphSON

/-- A document that names a request: the text of its identifier, bare or with its type. -/
inductive Request.Names (id : Uuid) : Json → Prop
  | bare {text : String} (h : id.Writes text.toList) : Names id (.string text)
  | tagged {text : String} (h : id.Writes text.toList) :
      Names id (Envelope.mk Tag.uuid (.string text)).toJson

/-- The identifier in the envelope of a request names that request. -/
lemma Request.names_idJson (id : Uuid) : Names id (idJson id) := .tagged (Uuid.writes_text id)

lemma Response.requestUuid?_of_names {id : Uuid} {f : Response} {raw : Json}
    (hraw : f.requestId = some raw) (h : Request.Names id raw) : f.requestUuid? = some id := by
  have huntag : ∃ text, (untag raw).asString? = some text ∧ id.Writes text.toList := by
    cases h with
    | bare h => exact ⟨_, rfl, h⟩
    | tagged h => exact ⟨_, by rw [untag, Envelope.ofJson?_toJson]; rfl, h⟩
  obtain ⟨text, htext, hwrites⟩ := huntag
  rw [requestUuid?, hraw, Option.bind_eq_bind, Option.bind_some, htext]
  exact Uuid.ofChars?_of_writes hwrites

namespace Exchange

variable {x : Exchange} {decoder : Decoder} {f : Response}

/-- What an exchange makes of a frame of its own: results and challenges by the number of the status
code, and for any other code the end with the verdict that it stands for. -/
def processed (x : Exchange) (decoder : Decoder) (f : Response) : Exchange × Transition :=
  match f.status.code with
  | 200 => ({ x with results := [], state := .completed },
      .complete (x.results ++ decoder.results f.data?))
  | 204 => ({ x with results := [], state := .completed }, .complete x.results)
  | 206 => ({ x with results := x.results ++ decoder.results f.data?, state := .accumulating },
      .proceed)
  | 401 | 407 =>
    if x.hasCredentials = true ∧ x.authenticated = false then
      ({ x with authenticated := true, state := .sending }, .authenticate)
    else
      ({ x with state := .completed },
        .fail (if x.hasCredentials then .unauthorized f.status.text else .missingCredentials))
  | _ => ({ x with state := .completed }, verdict x.requestId x.hasCredentials decoder [] f)

lemma onChallenge_eq (x : Exchange) (f : Response) : x.onChallenge f =
    if x.hasCredentials = true ∧ x.authenticated = false then
      ({ x with authenticated := true, state := .sending }, .authenticate)
    else
      ({ x with state := .completed },
        .fail (if x.hasCredentials then .unauthorized f.status.text else .missingCredentials)) := by
  rw [onChallenge]
  cases hc : x.hasCredentials <;> cases ha : x.authenticated <;> simp [failWith, hc, ha]

/-- A frame that is not of another request is processed. -/
lemma onFrame_of_own (h : x.isForeign f = false) :
    x.onFrame decoder f = x.processed decoder f := by
  unfold processed
  split
  case h_6 =>
    unfold verdict
    split
    case h_12 =>
      have hcode : ResponseCode.ofCode? f.status.code = none := by
        unfold ResponseCode.ofCode?
        split <;> simp_all
      simp [onFrame, h, Response.code?, hcode, failWith]
    all_goals
      rename_i hcode
      simp_all [onFrame, Response.code?, ResponseCode.ofCode?, ClientError.ofStatus?,
        ResponseCode.errorKind?, failWith]
  all_goals
    rename_i hcode
    simp [onFrame, h, Response.code?, hcode, ResponseCode.ofCode?, completeWith, onChallenge_eq]

/-- A frame that names a request, as the request names itself or in any other spelling, has the
identifier of that request. So the exchange of the request processes the frame, and the exchange of
any other request passes over it and stays as it is. -/
theorem onFrame_of_names (id : Uuid) (decoder : Decoder) {f : Response} {raw : Json}
    (hraw : f.requestId = some raw) (hnames : Request.Names id raw) :
    Request.Names id (Request.idJson id) ∧ f.requestUuid? = some id ∧
      ∀ x : Exchange, (x.requestId = id → x.onFrame decoder f = x.processed decoder f) ∧
        (x.requestId ≠ id → x.onFrame decoder f = (x, .proceed)) := by
  have huuid : f.requestUuid? = some id := Response.requestUuid?_of_names hraw hnames
  have hisFor (x : Exchange) : f.isFor x.requestId = (id == x.requestId) := by
    rw [Response.isFor, huuid]
    rfl
  refine ⟨Request.names_idJson id, huuid, fun x => ⟨fun hown => ?_, fun hother => ?_⟩⟩
  · have hforeign : x.isForeign f = false := by rw [isForeign_eq, hisFor, hown]; simp
    exact onFrame_of_own hforeign
  · exact onFrame_of_foreign decoder (by rw [hisFor, beq_eq_false_iff_ne.2 (Ne.symm hother)])

/-- An identifier in braces with capital digits. -/
theorem onFrame_of_capitals :
    let id : Uuid := ⟨0x41d2e28a20a44ab0b379d810dede3786⟩
    let raw : Json := .string "\x7b41D2E28A-20A4-4AB0-B379-D810DEDE3786\x7d"
    let f : Response := ⟨some raw, ⟨206, none, none⟩, ⟨none, none⟩⟩
    Request.Names id raw ∧ f.requestUuid? = some id ∧
      (new id false).onFrame .empty f =
        (⟨id, false, false, [], .accumulating⟩, .proceed) ∧
      (new .nil false).onFrame .empty f = (new .nil false, .proceed) := by
  intro id raw f
  have hwrites : id.Writes ('\x7b' :: "41D2E28A-20A4-4AB0-B379-D810DEDE3786".toList ++ ['\x7d']) :=
    .braced (by decide +kernel)
  have hnames : Request.Names id raw := .bare hwrites
  obtain ⟨-, huuid, hframe⟩ := onFrame_of_names id .empty (f := f) rfl hnames
  exact ⟨hnames, huuid, (hframe (new id false)).1 rfl, (hframe (new .nil false)).2 (by decide)⟩

end Exchange

end GraphClient
