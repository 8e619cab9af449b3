import GraphClient.GraphSON.Element
import GraphClient.Number.Decimal
import GraphClient.Text.Blank
import GraphClient.Value.Equality
import GraphClient.Value.Text

/-!
# Handlers of types

What the payload of a type stands for. A payload of an unexpected form is decoded by its form, so
that no document fails to decode.
-/

namespace GraphClient.GraphSON

/-- The value of an envelope, given its payload. -/
abbrev Handler := Part → Value

namespace Handler

/-- The payload by its form. -/
def plain : Handler := Part.bare

def list : Handler := fun payload =>
  match payload.content with
  | .array items => .list (items.map (·.value))
  | _ => payload.bare

/-- The items without repetitions, in the order of their first occurrences. -/
def set : Handler := fun payload =>
  match payload.content with
  | .array items => .set (Value.distinct (items.map (·.value)))
  | _ => payload.bare

/-- Items taken two by two; the last may be alone. -/
def pairs : List Part → List (Part × Option Part)
  | [] => []
  | [a] => [(a, none)]
  | a :: b :: rest => (a, some b) :: pairs rest

/-- The key of a map entry: a text as it is, any other value by its text. -/
def keyText (v : Value) : String :=
  match v with
  | .string text => text
  | other => other.text

/-- Keys and values in turn. A last key alone has the value null. -/
def map : Handler := fun payload =>
  match payload.content with
  | .array items => .map (Entries.ofList ((pairs items).map fun (key, value) =>
      (keyText key.value, (value.map (·.value)).getD .null)))
  | _ => payload.bare

/-- The integer that a text writes in decimal, with blanks around it, or zero. -/
def integerOfText (text : String) : Int64 :=
  (Decimal.int64? (Blank.trim text.toList)).getD 0

/-- A number, or a text that writes one. -/
def integer : Handler := fun payload =>
  match payload.content with
  | .string text => .integer (integerOfText text)
  | _ => payload.bare

/-- A number, or a text that writes one; any other text stays a text. -/
def float : Handler := fun payload =>
  match payload.content with
  | .number n => .float n.toDouble
  | .string text =>
    match Double.ofText? text with
    | some x => .float x
    | none => .string text
  | _ => payload.bare

/-- Microseconds within the calendar. -/
def timestamp : Handler := fun payload =>
  match payload.content with
  | .number n =>
    match n.toInt64?.bind fun i => Timestamp.ofMicros? i.toInt with
    | some t => .timestamp t
    | none => payload.bare
  | _ => payload.bare

/-- A payload that is an object, as one value. -/
def element (make : Entries Part → Value) : Handler := fun payload =>
  match payload.content with
  | .object members => make members
  | _ => payload.bare

def vertex : Handler := element fun members => .vertex (Vertex.ofWire members)

def vertexProperty : Handler :=
  element fun members => .vertexProperty (VertexProperty.ofWire members)

def edge : Handler := element fun members => .edge (Edge.ofWire members)

def property : Handler := element fun members => .property (Property.ofWire members)

def path : Handler := element fun members => .path (Path.ofWire members)

/-- How often an item counts: an integer, or once if there is none. -/
def bulk (part : Option Part) : Nat :=
  match part.bind (·.value.asInt?) with
  | some n => n.toInt.toNat
  | none => 1

/-- Items and counts in turn: each item as often as its count. -/
def bulkSet : Handler := fun payload =>
  match payload.content with
  | .array items => .list ((pairs items).flatMap fun (item, count) =>
      List.replicate (bulk count) item.value)
  | _ => payload.bare

/-- The value that a traverser carries. -/
def traverser : Handler := fun payload =>
  match payload.content.member? "value" with
  | some inner => inner.value
  | none => payload.untag.bare

/-- The form of the payload as a text. -/
def formName : Handler := fun payload =>
  .string <| match payload.content with
    | .null => "kind:null"
    | .bool _ => "kind:bool"
    | .number _ => "kind:number"
    | .string _ => "kind:string"
    | .array _ => "kind:array"
    | .object _ => "kind:object"

/-- The payload, decoded as if it stood alone. -/
def inner : Handler := fun payload => payload.value

/-- Null whatever the payload. -/
def discard : Handler := fun _ => .null

end Handler

end GraphClient.GraphSON
