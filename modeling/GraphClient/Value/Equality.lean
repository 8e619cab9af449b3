import GraphClient.Value.Basic

/-!
# Equality of values

Values are compared part by part. Floats are compared as numbers, so the two zeros are equal and a
value with a NaN in it differs from itself.
-/

namespace GraphClient

mutual

def Value.same : Value → Value → Bool
  | .null, .null => true
  | .boolean a, .boolean b => a == b
  | .integer a, .integer b => a == b
  | .float a, .float b => a.same b
  | .string a, .string b => a == b
  | .list a, .list b => Value.sameItems a b
  | .set a, .set b => Value.sameItems a b
  | .map a, .map b => Value.sameEntries a b
  | .vertex a, .vertex b => a.same b
  | .edge a, .edge b => a.same b
  | .vertexProperty a, .vertexProperty b => a.same b
  | .property a, .property b => a.same b
  | .path a, .path b => a.same b
  | .timestamp a, .timestamp b => a == b
  | _, _ => false

def Value.sameItems : List Value → List Value → Bool
  | [], [] => true
  | a :: as, b :: bs => a.same b && Value.sameItems as bs
  | _, _ => false

def Value.sameEntries : List (String × Value) → List (String × Value) → Bool
  | [], [] => true
  | (k, a) :: as, (l, b) :: bs => k == l && a.same b && Value.sameEntries as bs
  | _, _ => false

def Vertex.same : Vertex → Vertex → Bool
  | ⟨i, l, ps⟩, ⟨j, m, qs⟩ => i.same j && l == m && Vertex.sameProperties ps qs

def Vertex.sameProperties :
    List (String × List VertexProperty) → List (String × List VertexProperty) → Bool
  | [], [] => true
  | (k, a) :: as, (l, b) :: bs =>
    k == l && VertexProperty.sameItems a b && Vertex.sameProperties as bs
  | _, _ => false

def VertexProperty.sameItems : List VertexProperty → List VertexProperty → Bool
  | [], [] => true
  | a :: as, b :: bs => a.same b && VertexProperty.sameItems as bs
  | _, _ => false

def VertexProperty.same : VertexProperty → VertexProperty → Bool
  | ⟨i, l, v, some ps⟩, ⟨j, m, w, some qs⟩ =>
    i.same j && l == m && v.same w && Value.sameEntries ps qs
  | ⟨i, l, v, none⟩, ⟨j, m, w, none⟩ => i.same j && l == m && v.same w
  | _, _ => false

def EdgeVertex.same : EdgeVertex → EdgeVertex → Bool
  | ⟨i, l⟩, ⟨j, m⟩ => i.same j && l == m

def Edge.same : Edge → Edge → Bool
  | ⟨i, l, a, b, ps⟩, ⟨j, m, c, d, qs⟩ =>
    i.same j && l == m && a.same c && b.same d && Value.sameEntries ps qs

def Property.same : Property → Property → Bool
  | ⟨k, v⟩, ⟨l, w⟩ => k == l && v.same w

def Path.same : Path → Path → Bool
  | ⟨ks, os⟩, ⟨ls, ps⟩ => ks == ls && Value.sameItems os ps

end

namespace Value

/-- The items without those that equal one before them. -/
def distinct (items : List Value) : List Value :=
  items.foldl (fun kept item => if kept.any (·.same item) then kept else kept ++ [item]) []

end Value

end GraphClient
