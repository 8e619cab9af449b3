import GraphClient.Value.Basic
import GraphClient.Number.Shortest

/-!
# Text of values

A short text of a value for people. Collections show only their sizes, graph elements their
identifiers.
-/

namespace GraphClient

/-- A count in braces. -/
def braced (count : Nat) (noun : String) : String :=
  "\x7b" ++ toString count ++ " " ++ noun ++ "\x7d"

mutual

def Value.text : Value → String
  | .null => "null"
  | .boolean b => if b then "true" else "false"
  | .integer n => toString n.toInt
  | .float x => x.text
  | .string text => text
  | .list items => "[" ++ toString items.length ++ " items]"
  | .set items => braced items.length "items"
  | .map entries => braced entries.length "entries"
  | .vertex v => v.text
  | .edge e => e.text
  | .vertexProperty p => p.text
  | .property p => p.text
  | .path p => p.text
  | .timestamp t => t.text

def Value.texts : List Value → List String
  | [] => []
  | v :: vs => v.text :: Value.texts vs

def Vertex.text : Vertex → String
  | ⟨id, _, _⟩ => "v[" ++ id.text ++ "]"

def VertexProperty.text : VertexProperty → String
  | ⟨_, label, value, _⟩ => "vp[" ++ label ++ "->" ++ value.text ++ "]"

def Edge.text : Edge → String
  | ⟨id, label, ⟨inId, _⟩, ⟨outId, _⟩, _⟩ =>
    "e[" ++ id.text ++ "][" ++ outId.text ++ "-" ++ label ++ "->" ++ inId.text ++ "]"

def Property.text : Property → String
  | ⟨key, value⟩ => "p[" ++ key ++ "->" ++ value.text ++ "]"

def Path.text : Path → String
  | ⟨_, objects⟩ => "path[" ++ ", ".intercalate (Value.texts objects) ++ "]"

end

end GraphClient
