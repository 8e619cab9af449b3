import GraphClient.Json.Basic

/-!
# Type envelopes

A typed value on the wire is an object with the name of its type and a payload. Any other document
is bare.
-/

namespace GraphClient.GraphSON

/-- The member that holds the name of the type. -/
def typeKey : String := "@type"

/-- The member that holds the payload. -/
def valueKey : String := "@value"

/-- A type name and a payload. -/
structure Envelope where
  tag : String
  payload : Json

namespace Envelope

/-- The envelope that a document is; without a payload it holds null. -/
def ofJson? (json : Json) : Option Envelope :=
  match json.member? typeKey with
  | some (.string tag) => some ⟨tag, (json.member? valueKey).getD .null⟩
  | _ => none

def toJson (e : Envelope) : Json :=
  .object [(typeKey, .string e.tag), (valueKey, e.payload)]

theorem ofJson?_toJson (e : Envelope) : ofJson? e.toJson = some e := by
  simp [ofJson?, toJson, Json.member?, Entries.get?_cons, typeKey, valueKey]

end Envelope

/-- The payload of an envelope, or a bare document itself. -/
def untag (json : Json) : Json := ((Envelope.ofJson? json).map (·.payload)).getD json

end GraphClient.GraphSON
