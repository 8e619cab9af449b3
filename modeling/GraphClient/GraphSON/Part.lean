import GraphClient.GraphSON.Envelope
import GraphClient.Value.Json

/-!
# Decoded parts

A document in which every part stands with the value that it decodes to. The value of a part is
made of its members alone, so what reads a part has all it needs without decoding again. It is
worked out when it is first asked for: a part that nobody asks costs nothing, however many items it
stands for.
-/

namespace GraphClient.GraphSON

mutual

/-- A part of a document and its value, worked out on demand. -/
structure Part where
  delayed : Thunk Value
  content : Content

/-- The form of a document with parts in place of its members. -/
inductive Content where
  | null
  | bool (b : Bool)
  | number (n : Json.Number)
  | string (text : String)
  | array (items : List Part)
  | object (members : List (String × Part))

end

/-- The value that a part decodes to. -/
def Part.value (part : Part) : Value := part.delayed.get

namespace Content

def member? (content : Content) (name : String) : Option Part :=
  match content with
  | .object members => Entries.get? members name
  | _ => none

/-- The value by form alone; members keep the values that they decode to. -/
def bare : Content → Value
  | null => .null
  | bool b => .boolean b
  | number n => n.toValue
  | string text => .string text
  | array items => .list (items.map (·.value))
  | object members => .map (members.map fun (name, part) => (name, part.value))

end Content

namespace Part

/-- The part for an absent payload. -/
def null : Part := ⟨Thunk.pure .null, .null⟩

/-- The tag and the payload of an envelope. -/
def tagged? (content : Content) : Option (String × Part) :=
  match content.member? typeKey with
  | some ⟨_, .string tag⟩ => some (tag, (content.member? valueKey).getD null)
  | _ => none

/-- The payload of an envelope, or a bare part itself. -/
def untag (part : Part) : Part := ((tagged? part.content).map Prod.snd).getD part

/-- The value by form alone. -/
def bare (part : Part) : Value := part.content.bare

end Part

end GraphClient.GraphSON
