import GraphClient.Message.Request
import GraphClient.Message.Response
import GraphClient.Proofs.JsonText

/-!
# What a request says on the wire

The message of a request is read back as its envelope: the script, the language, the processor and
the credentials are strings of the document, character for character, and no text becomes a member
of the envelope. A binary message has the bytes of the text message behind the name of the type.
-/

namespace GraphClient

namespace Message

/-- The document in the payload of a message, which in a binary one may stand behind the name of its
type. -/
def document? : Message → Option Json
  | .text payload => Json.parse? payload
  | .binary payload => Json.ofSymbols? .any (Utf8.symbols (Response.stripHeader payload))
  | .ping _ | .pong _ | .close _ => none

end Message

lemma Response.stripHeader_mimeHeader (payload : ByteArray) :
    stripHeader (mimeHeader ++ payload) = payload := by
  have hprefix : mimeHeader.data.toList <+: (mimeHeader ++ payload).data.toList := by
    rw [ByteArray.data_append, Array.toList_append]
    exact List.prefix_append _ _
  rw [stripHeader, if_pos hprefix, ByteArray.size_append]
  exact ByteArray.extract_append_eq_right rfl rfl

namespace Request

variable {depth : Nat}

lemma plain_pair {first second : String} (h : first < second) (s t : String) :
    (Json.object [(first, .string s), (second, .string t)]).Plain (depth + 1) := by
  refine .object (by simpa [Entries.Ascending] using h) fun m hm => ?_
  simp only [List.mem_cons, List.not_mem_nil, or_false] at hm
  rcases hm with rfl | rfl <;> exact .string _

lemma plain_idJson (id : Uuid) : (idJson id).Plain (depth + 1) := plain_pair (by decide) _ _

lemma plain_argumentsJson (r : Request) : r.argumentsJson.Plain (depth + 1) := by
  rw [argumentsJson]
  split <;> exact plain_pair (by decide) _ _

/-- The envelope of a request is made of strings in two levels of objects. -/
lemma plain_toJson (r : Request) : r.toJson.Plain (depth + 2) := by
  have hkeys : ["args", "op", "processor", "requestId"].Pairwise (· < ·) := by decide
  refine .object (List.pairwise_map (f := Prod.fst) (R := (· < ·)) |>.1 hkeys) fun m hm => ?_
  simp only [List.mem_cons, List.not_mem_nil, or_false] at hm
  rcases hm with rfl | rfl | rfl | rfl
  · exact plain_argumentsJson r
  · exact .string _
  · exact .string _
  · exact plain_idJson r.id

/-- Both forms of the message hold the envelope. -/
lemma document?_eq_toJson (r : Request) (format : MessageFormat) :
    (r.toMessage format).document? = some r.toJson := by
  have hparse : Json.parse? r.toJson.render = some r.toJson := Json.parse?_render (plain_toJson r)
  cases format with
  | text => exact hparse
  | binary =>
    rw [toMessage, Message.document?, Response.stripHeader_mimeHeader, Utf8.symbols_toUTF8]
    exact hparse

/-- Whatever the texts of a request are, its message in either format is read back as its envelope,
which has them as strings and no other members than these; and the binary message is the name of the
type followed by the bytes of the text message. -/
theorem document?_toMessage (id : Uuid) (processor : String) (format : MessageFormat) :
    (∀ script language : String,
      let r := eval id script processor language
      (r.toMessage format).document? = some r.toJson ∧
        r.toJson = .object
          [("args", .object [("gremlin", .string script), ("language", .string language)]),
            ("op", .string "eval"), ("processor", .string processor),
            ("requestId", .object [("@type", .string "g:UUID"), ("@value", .string id.text)])]) ∧
      (∀ credentials : Credentials,
        let r := authentication id processor credentials
        (r.toMessage format).document? = some r.toJson ∧
          r.toJson = .object
            [("args", .object
                [("sasl", .string credentials.sasl), ("saslMechanism", .string "PLAIN")]),
              ("op", .string "authentication"), ("processor", .string processor),
              ("requestId", .object [("@type", .string "g:UUID"), ("@value", .string id.text)])]) ∧
      ∀ r : Request, ∃ text : String, r.toMessage .text = .text text ∧
        r.toMessage .binary = .binary (mimeHeader ++ text.toUTF8) :=
  ⟨fun _ _ => ⟨document?_eq_toJson _ format, rfl⟩, fun _ => ⟨document?_eq_toJson _ format, rfl⟩,
    fun r => ⟨r.toJson.render, rfl, rfl⟩⟩

end Request

end GraphClient
