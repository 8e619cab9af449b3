import GraphClient.Entries
import GraphClient.Number.Double
import GraphClient.Time.Timestamp

/-!
# Graph values

Results of a traversal: plain data, and the elements of a property graph. Maps are ordered by key;
a vertex may have several properties of one key, in their order.
-/

namespace GraphClient

mutual

/-- A value in a result. -/
inductive Value where
  | null
  | boolean (b : Bool)
  | integer (n : Int64)
  | float (x : Double)
  | string (text : String)
  | list (items : List Value)
  | set (items : List Value)
  | map (entries : List (String × Value))
  | vertex (v : Vertex)
  | edge (e : Edge)
  | vertexProperty (p : VertexProperty)
  | property (p : Property)
  | path (p : Path)
  | timestamp (t : Timestamp)

structure Vertex where
  id : Value
  label : String
  properties : List (String × List VertexProperty)

/-- A property of a vertex. It may have properties of its own. -/
structure VertexProperty where
  id : Value
  label : String
  value : Value
  properties : Option (List (String × Value))

/-- An end of an edge. -/
structure EdgeVertex where
  id : Value
  label : String

structure Edge where
  id : Value
  label : String
  inVertex : EdgeVertex
  outVertex : EdgeVertex
  properties : List (String × Value)

/-- A property of an edge or of a vertex property. -/
structure Property where
  key : String
  value : Value

/-- The objects that a traversal went through, with the labels of each step. -/
structure Path where
  labels : List (List String)
  objects : List Value

end

instance : Inhabited Value := ⟨.null⟩

namespace Value

def isNull : Value → Bool
  | null => true
  | _ => false

def asBool? : Value → Option Bool
  | boolean b => some b
  | _ => none

def asInt? : Value → Option Int64
  | integer n => some n
  | _ => none

/-- A float, or an integer as the nearest double. -/
def asFloat? : Value → Option Double
  | float x => some x
  | integer n => some (Double.ofInt n.toInt)
  | _ => none

def asString? : Value → Option String
  | string text => some text
  | _ => none

/-- The items of a list or a set. -/
def asList? : Value → Option (List Value)
  | list items | set items => some items
  | _ => none

def asMap? : Value → Option (Entries Value)
  | map entries => some entries
  | _ => none

def asVertex? : Value → Option Vertex
  | vertex v => some v
  | _ => none

def asEdge? : Value → Option Edge
  | edge e => some e
  | _ => none

def asVertexProperty? : Value → Option VertexProperty
  | vertexProperty p => some p
  | _ => none

def asProperty? : Value → Option Property
  | property p => some p
  | _ => none

def asPath? : Value → Option Path
  | path p => some p
  | _ => none

def asTimestamp? : Value → Option Timestamp
  | timestamp t => some t
  | _ => none

/-- The name of a value's type. -/
def typeName : Value → String
  | null => "Null"
  | boolean _ => "Boolean"
  | integer _ => "Integer"
  | float _ => "Float"
  | string _ => "String"
  | list _ => "List"
  | set _ => "Set"
  | map _ => "Map"
  | vertex _ => "Vertex"
  | edge _ => "Edge"
  | vertexProperty _ => "VertexProperty"
  | property _ => "Property"
  | path _ => "Path"
  | timestamp _ => "Timestamp"

end Value

namespace Vertex

def new (id : Value) (label : String) : Vertex := ⟨id, label, []⟩

/-- The properties of a key, in their order. -/
def propertiesOf (v : Vertex) (key : String) : List VertexProperty :=
  (Entries.get? v.properties key).getD []

/-- The vertex with one more property, the last of its key. -/
def withProperty (v : Vertex) (p : VertexProperty) : Vertex :=
  { v with properties := Entries.insert v.properties p.label (v.propertiesOf p.label ++ [p]) }

/-- The first property of a key. -/
def property? (v : Vertex) (key : String) : Option VertexProperty :=
  (Entries.get? v.properties key).bind List.head?

/-- The value of the first property of a key. -/
def value? (v : Vertex) (key : String) : Option Value := (v.property? key).map (·.value)

end Vertex

namespace VertexProperty

def new (id : Value) (label : String) (value : Value) : VertexProperty := ⟨id, label, value, none⟩

def get? (p : VertexProperty) (key : String) : Option Value :=
  p.properties.bind fun entries => Entries.get? entries key

end VertexProperty

namespace Edge

def get? (e : Edge) (key : String) : Option Value := Entries.get? e.properties key

end Edge

namespace Path

def length (p : Path) : Nat := p.objects.length

def isEmpty (p : Path) : Bool := p.objects.isEmpty

/-- The object at the first step that has a label. -/
def get? (p : Path) (label : String) : Option Value :=
  (p.labels.findIdx? fun labels => labels.contains label).bind fun i => p.objects[i]?

end Path

end GraphClient
