import GraphClient.Json.Record
import GraphClient.Value.Basic

/-!
# Values as JSON

Plain values as the documents of the same form, and graph elements as objects with a member for
each field. Reading gives plain values only; an element is read where one is asked for.
-/

namespace GraphClient

namespace Json

/-- A float as a number, or null if it is not finite. -/
def ofDouble (x : Double) : Json := if x.isFinite then .number (.float x) else .null

/-- Lists of texts as arrays. -/
def ofLabels (labels : List (List String)) : Json :=
  .array (labels.map fun step => .array (step.map .string))

end Json

mutual

def Value.toJson : Value → Json
  | .null => .null
  | .boolean b => .bool b
  | .integer n => .number (.int n.toInt)
  | .float x => Json.ofDouble x
  | .string text => .string text
  | .list items | .set items => .array (Value.itemsToJson items)
  | .map entries => .object (Value.entriesToJson entries)
  | .vertex v => v.toJson
  | .edge e => e.toJson
  | .vertexProperty p => p.toJson
  | .property p => p.toJson
  | .path p => p.toJson
  | .timestamp t => .string t.textZulu

def Value.itemsToJson : List Value → List Json
  | [] => []
  | v :: vs => v.toJson :: Value.itemsToJson vs

def Value.entriesToJson : List (String × Value) → List (String × Json)
  | [] => []
  | (key, v) :: rest => (key, v.toJson) :: Value.entriesToJson rest

def Vertex.toJson : Vertex → Json
  | ⟨id, label, properties⟩ =>
    .object [("id", id.toJson), ("label", .string label),
      ("properties", .object (Vertex.propertiesToJson properties))]

def Vertex.propertiesToJson : List (String × List VertexProperty) → List (String × Json)
  | [] => []
  | (key, ps) :: rest => (key, .array (VertexProperty.itemsToJson ps)) ::
      Vertex.propertiesToJson rest

def VertexProperty.itemsToJson : List VertexProperty → List Json
  | [] => []
  | p :: ps => p.toJson :: VertexProperty.itemsToJson ps

def VertexProperty.toJson : VertexProperty → Json
  | ⟨id, label, value, none⟩ =>
    .object [("id", id.toJson), ("label", .string label), ("value", value.toJson)]
  | ⟨id, label, value, some properties⟩ =>
    .object [("id", id.toJson), ("label", .string label),
      ("properties", .object (Value.entriesToJson properties)), ("value", value.toJson)]

def EdgeVertex.toJson : EdgeVertex → Json
  | ⟨id, label⟩ => .object [("id", id.toJson), ("label", .string label)]

def Edge.toJson : Edge → Json
  | ⟨id, label, inVertex, outVertex, properties⟩ =>
    .object [("id", id.toJson), ("in_vertex", inVertex.toJson), ("label", .string label),
      ("out_vertex", outVertex.toJson),
      ("properties", .object (Value.entriesToJson properties))]

def Property.toJson : Property → Json
  | ⟨key, value⟩ => .object [("key", .string key), ("value", value.toJson)]

def Path.toJson : Path → Json
  | ⟨labels, objects⟩ =>
    .object [("labels", Json.ofLabels labels), ("objects", .array (Value.itemsToJson objects))]

end

namespace Json

/-- A number as a 64-bit integer if it is one, else as a float. -/
def Number.toValue (n : Number) : Value :=
  match n.toInt64? with
  | some i => .integer i
  | none => .float n.toDouble

end Json

mutual

/-- The plain value of the same form as a document. -/
def Value.ofJson : Json → Value
  | .null => .null
  | .bool b => .boolean b
  | .number n => n.toValue
  | .string text => .string text
  | .array items => .list (Value.ofJsonItems items)
  | .object members => .map (Value.ofJsonMembers members)

def Value.ofJsonItems : List Json → List Value
  | [] => []
  | j :: js => Value.ofJson j :: Value.ofJsonItems js

def Value.ofJsonMembers : List (String × Json) → List (String × Value)
  | [] => []
  | (name, j) :: rest => (name, Value.ofJson j) :: Value.ofJsonMembers rest

end

namespace Json

def entries? : Json → Option (Entries Value)
  | .object members => some (Value.ofJsonMembers members)
  | _ => none

def strings? : Json → Option (List String)
  | .array items => items.mapM asString?
  | _ => none

end Json

namespace VertexProperty

def shape : Json.Shape :=
  .record [("id", .any), ("label", .any), ("value", .any), ("properties", .map .any fun _ => true)]

/-- A vertex property. Its own properties may be missing or null in an object, and null in an
array. -/
def ofJson? (json : Json) : Option VertexProperty :=
  match json.record? ["id", "label", "value", "properties"] with
  | some ⟨positional, [some id, some (.string label), some value, properties]⟩ =>
    let new (properties : Option (Entries Value)) : VertexProperty :=
      ⟨Value.ofJson id, label, Value.ofJson value, properties⟩
    match properties with
    | none => if positional then none else some (new none)
    | some .null => some (new none)
    | some properties => properties.entries?.map fun entries => new (some entries)
  | _ => none

def listOfJson? : Json → Option (List VertexProperty)
  | .array items => items.mapM ofJson?
  | _ => none

end VertexProperty

namespace Vertex

def shape : Json.Shape :=
  .record [("id", .any), ("label", .any),
    ("properties", .map (.list VertexProperty.shape) fun json =>
      (VertexProperty.listOfJson? json).isSome)]

def propertiesOfJson? : Json → Option (Entries (List VertexProperty))
  | .object members => members.mapM fun (key, list) =>
    (VertexProperty.listOfJson? list).map fun ps => (key, ps)
  | _ => none

/-- A vertex; without properties it has none. -/
def ofJson? (json : Json) : Option Vertex :=
  match json.record? ["id", "label", "properties"] with
  | some ⟨_, [some id, some (.string label), none]⟩ => some ⟨Value.ofJson id, label, []⟩
  | some ⟨_, [some id, some (.string label), some properties]⟩ =>
    (propertiesOfJson? properties).map fun properties => ⟨Value.ofJson id, label, properties⟩
  | _ => none

end Vertex

namespace EdgeVertex

def shape : Json.Shape := .record [("id", .any), ("label", .any)]

def ofJson? (json : Json) : Option EdgeVertex :=
  match json.record? ["id", "label"] with
  | some ⟨_, [some id, some (.string label)]⟩ => some ⟨Value.ofJson id, label⟩
  | _ => none

end EdgeVertex

namespace Edge

def shape : Json.Shape :=
  .record [("id", .any), ("label", .any), ("in_vertex", EdgeVertex.shape),
    ("out_vertex", EdgeVertex.shape), ("properties", .map .any fun _ => true)]

/-- An edge; without properties it has none. -/
def ofJson? (json : Json) : Option Edge :=
  match json.record? ["id", "label", "in_vertex", "out_vertex", "properties"] with
  | some ⟨_, [some id, some (.string label), some inVertex, some outVertex, properties]⟩ => do
    let inVertex ← EdgeVertex.ofJson? inVertex
    let outVertex ← EdgeVertex.ofJson? outVertex
    let properties ← match properties with
      | none => some []
      | some properties => properties.entries?
    some ⟨Value.ofJson id, label, inVertex, outVertex, properties⟩
  | _ => none

end Edge

namespace Property

def shape : Json.Shape := .record [("key", .any), ("value", .any)]

def ofJson? (json : Json) : Option Property :=
  match json.record? ["key", "value"] with
  | some ⟨_, [some (.string key), some value]⟩ => some ⟨key, Value.ofJson value⟩
  | _ => none

end Property

namespace Path

def shape : Json.Shape := .record [("labels", .any), ("objects", .any)]

def ofJson? (json : Json) : Option Path :=
  match json.record? ["labels", "objects"] with
  | some ⟨_, [some (.array labels), some (.array objects)]⟩ =>
    (labels.mapM Json.strings?).map fun labels => ⟨labels, Value.ofJsonItems objects⟩
  | _ => none

end Path

end GraphClient
