import GraphClient.GraphSON.Part
import GraphClient.GraphSON.Tag

/-!
# Graph elements on the wire

Vertices, edges, properties and paths from the members of their payloads. Missing members give
null, the empty text or no properties.
-/

namespace GraphClient

namespace GraphSON

/-- The value of a member, or null. -/
def valueOf (members : Entries Part) (key : String) : Value :=
  ((Entries.get? members key).map (·.value)).getD .null

/-- A member that is a text, or the empty text. -/
def labelOf (members : Entries Part) (key : String) : String :=
  match Entries.get? members key with
  | some ⟨_, .string text⟩ => text
  | _ => ""

/-- The value of a property in a map of properties: of a typed property only its own value. -/
def propertyValue (part : Part) : Value :=
  match part.value with
  | .property p => p.value
  | other => other

def propertyValues (members : Entries Part) : Entries Value :=
  members.map fun (key, part) => (key, propertyValue part)

/-- A member that is an object. -/
def objectOf? (members : Entries Part) (key : String) : Option (Entries Part) :=
  match Entries.get? members key with
  | some ⟨_, .object inner⟩ => some inner
  | _ => none

end GraphSON

open GraphSON

namespace VertexProperty

/-- A vertex property from the members of its payload. -/
def ofWire (members : Entries Part) : VertexProperty :=
  { id := valueOf members "id"
    label := labelOf members "label"
    value := valueOf members "value"
    properties := (objectOf? members "properties").map propertyValues }

/-- The body of a vertex property: an object whose label is the key unless it has one, or else only
the value. -/
def ofWireBody (key : String) (body : Part) : VertexProperty :=
  match body.content with
  | .object members =>
    let p := ofWire members
    if p.label.isEmpty then { p with label := key } else p
  | _ => new .null key body.value

/-- One of the properties of a vertex under a key: typed, bare, or a mere value of another type. -/
def ofWireElement (key : String) (element : Part) : VertexProperty :=
  match Part.tagged? element.content with
  | some (tag, payload) =>
    if tag = Tag.vertexProperty then ofWireBody key payload else new .null key element.value
  | none => ofWireBody key element

end VertexProperty

namespace Vertex

/-- The elements of a list, typed or bare, or else the one element that stands alone. -/
def wireElements (part : Part) : List Part :=
  match part.untag with
  | ⟨_, .array items⟩ => items
  | single => [single]

/-- A vertex from the members of its payload. -/
def ofWire (members : Entries Part) : Vertex :=
  { id := valueOf members "id"
    label := labelOf members "label"
    properties := ((objectOf? members "properties").getD []).map fun (key, part) =>
      (key, (wireElements part).map (VertexProperty.ofWireElement key)) }

end Vertex

namespace Edge

/-- An edge from the members of its payload. -/
def ofWire (members : Entries Part) : Edge :=
  { id := valueOf members "id"
    label := labelOf members "label"
    inVertex := ⟨valueOf members "inV", labelOf members "inVLabel"⟩
    outVertex := ⟨valueOf members "outV", labelOf members "outVLabel"⟩
    properties := ((objectOf? members "properties").map propertyValues).getD [] }

end Edge

namespace Property

/-- A property from the members of its payload. -/
def ofWire (members : Entries Part) : Property :=
  ⟨labelOf members "key", valueOf members "value"⟩

end Property

namespace Path

/-- The texts in the labels of one step. -/
def stepLabels (step : Value) : List String := (step.asList?.getD []).filterMap (·.asString?)

/-- A path from the members of its payload. -/
def ofWire (members : Entries Part) : Path :=
  { labels := ((valueOf members "labels").asList?.getD []).map stepLabels
    objects := match valueOf members "objects" with
      | .list items | .set items => items
      | .null => []
      | other => [other] }

end Path

end GraphClient
