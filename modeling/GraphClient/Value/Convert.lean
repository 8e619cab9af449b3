import GraphClient.Error
import GraphClient.Value.Basic

/-!
# Conversion of values

A value as one of the types that a caller may expect, or an error that names both types; and values
of such types as graph values.
-/

namespace GraphClient

/-- The types that a value converts to. -/
inductive TargetType where
  | bool
  | int
  | float
  | string
  | list
  | timestamp
  | vertex
  | edge
  | vertexProperty
  | path
  deriving DecidableEq, Repr

namespace TargetType

/-- The name of a type in error messages. -/
def name : TargetType → String
  | bool => "bool"
  | int => "i64"
  | float => "f64"
  | string => "String"
  | list => "Vec"
  | timestamp => "DateTime"
  | vertex => "Vertex"
  | edge => "Edge"
  | vertexProperty => "VertexProperty"
  | path => "Path"

def all : List TargetType :=
  [bool, int, float, string, list, timestamp, vertex, edge, vertexProperty, path]

def ofName? (name : String) : Option TargetType := all.find? fun target => target.name = name

/-- What values of a type are made of. -/
abbrev Carrier : TargetType → Type
  | bool => Bool
  | int => Int64
  | float => Double
  | string => String
  | list => List Value
  | timestamp => Timestamp
  | vertex => Vertex
  | edge => Edge
  | vertexProperty => VertexProperty
  | path => Path

/-- A member of a type as a graph value. -/
def toValue : (target : TargetType) → target.Carrier → Value
  | bool, b => .boolean b
  | int, n => .integer n
  | float, x => .float x
  | string, text => .string text
  | list, items => .list items
  | timestamp, t => .timestamp t
  | vertex, v => .vertex v
  | edge, e => .edge e
  | vertexProperty, p => .vertexProperty p
  | path, p => .path p

/-- The member of a type that a value holds. -/
def ofValue? : (target : TargetType) → Value → Option target.Carrier
  | bool, v => v.asBool?
  | int, v => v.asInt?
  | float, v => v.asFloat?
  | string, v => v.asString?
  | list, v => v.asList?
  | timestamp, v => v.asTimestamp?
  | vertex, v => v.asVertex?
  | edge, v => v.asEdge?
  | vertexProperty, v => v.asVertexProperty?
  | path, v => v.asPath?

end TargetType

/-- A value as a member of a type. -/
def Value.convert (target : TargetType) (v : Value) : Except ClientError target.Carrier :=
  match target.ofValue? v with
  | some x => .ok x
  | none =>
    .error (.typeConversion ("Cannot convert " ++ v.typeName ++ " to " ++ target.name))

/-- The value of the first property of a key as a member of a type. -/
def Vertex.getAs (v : Vertex) (target : TargetType) (key : String) :
    Except ClientError target.Carrier :=
  match v.value? key with
  | some value => value.convert target
  | none => .error (.typeConversion ("Property '" ++ key ++ "' not found"))

end GraphClient
