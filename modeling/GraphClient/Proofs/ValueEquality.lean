import GraphClient.Value.Equality
import Mathlib.Tactic.Common

/-!
# Equality of values as a relation

Equal values can stand for each other in every comparison, so equality is symmetric and transitive.
It is reflexive but for the floats that are no numbers: a value equals itself exactly if none of
them occurs in it, at any depth.
-/

namespace GraphClient

/-! ### The values in a value -/

def VertexProperty.parts (p : VertexProperty) : List Value :=
  p.id :: p.value :: (p.properties.getD []).map Prod.snd

/-- The values that a vertex holds, those of its properties among them. -/
def Vertex.parts (v : Vertex) : List Value :=
  v.id :: v.properties.flatMap fun entry => entry.2.flatMap VertexProperty.parts

def Edge.parts (e : Edge) : List Value :=
  e.id :: e.inVertex.id :: e.outVertex.id :: e.properties.map Prod.snd

namespace Value

/-- The values that a value is made of. -/
def parts : Value → List Value
  | list items | set items => items
  | map entries => entries.map Prod.snd
  | vertex v => v.parts
  | edge e => e.parts
  | vertexProperty p => p.parts
  | property p => [p.value]
  | path p => p.objects
  | _ => []

/-- A value occurs in itself and wherever it occurs in a part. -/
inductive Occurs (inner : Value) : Value → Prop
  | self : Occurs inner inner
  | inPart {part v : Value} (hp : part ∈ v.parts) (h : Occurs inner part) : Occurs inner v

/-- There is a float in the value that is no number. -/
def HoldsNaN (v : Value) : Prop := ∃ x : Double, x.isNaN = true ∧ Occurs (.float x) v

lemma occurs_iff {inner v : Value} :
    Occurs inner v ↔ v = inner ∨ ∃ part ∈ v.parts, Occurs inner part := by
  constructor
  · rintro (_ | ⟨hp, h⟩)
    · exact .inl rfl
    · exact .inr ⟨_, hp, h⟩
  · rintro (rfl | ⟨part, hp, h⟩)
    · exact .self
    · exact .inPart hp h

lemma not_holdsNaN_iff (v : Value) : ¬ v.HoldsNaN ↔
    (∀ x, v = .float x → x.isNaN = false) ∧ ∀ part ∈ v.parts, ¬ part.HoldsNaN := by
  constructor
  · intro h
    exact ⟨fun x hv => Bool.eq_false_iff.2 fun hx => h ⟨x, hx, hv ▸ .self⟩,
      fun part hp ⟨x, hx, ho⟩ => h ⟨x, hx, .inPart hp ho⟩⟩
  · rintro ⟨hself, hparts⟩ ⟨x, hx, ho⟩
    rcases occurs_iff.1 ho with hv | ⟨part, hp, ho⟩
    · exact Bool.eq_false_iff.1 (hself x hv) hx
    · exact hparts part hp ⟨x, hx, ho⟩

end Value

/-! ### Equal values stand for each other -/

/-- Equal numbers compare alike: they are the same or both zero. -/
lemma Double.same_congr {x y : Double} (h : x.same y = true) (z : Double) :
    x.same z = y.same z ∧ z.same x = z.same y := by
  simp only [Double.same, Bool.and_eq_true, Bool.or_eq_true, Bool.not_eq_true', beq_iff_eq] at h
  obtain ⟨⟨hx, hy⟩, rfl | ⟨hx0, hy0⟩⟩ := h
  · exact ⟨rfl, rfl⟩
  · have hz (w : Double) (hw : w.isZero = true) : (w == z || z.isZero) = z.isZero := by
      rcases eq_or_ne w z with rfl | hne
      · simp [hw]
      · simp [hne]
    have hz' (w : Double) (hw : w.isZero = true) : (z == w || z.isZero) = z.isZero := by
      rw [BEq.comm]
      exact hz w hw
    simp [Double.same, hx, hy, hx0, hy0, hz, hz']

mutual

theorem Value.same_congr : (a b : Value) → a.same b = true → ∀ c : Value,
    a.same c = b.same c ∧ c.same a = c.same b
  | .null, b, h, c => by
    cases b <;> simp only [Value.same, Bool.false_eq_true] at h
    exact ⟨rfl, rfl⟩
  | .boolean a, b, h, c => by
    cases b <;> simp only [Value.same, Bool.false_eq_true, beq_iff_eq] at h
    exact h ▸ ⟨rfl, rfl⟩
  | .integer a, b, h, c => by
    cases b <;> simp only [Value.same, Bool.false_eq_true, beq_iff_eq] at h
    exact h ▸ ⟨rfl, rfl⟩
  | .float a, b, h, c => by
    cases b <;> simp only [Value.same, Bool.false_eq_true] at h
    cases c <;> simp only [Value.same, and_self]
    exact Double.same_congr h _
  | .string a, b, h, c => by
    cases b <;> simp only [Value.same, Bool.false_eq_true, beq_iff_eq] at h
    exact h ▸ ⟨rfl, rfl⟩
  | .list as, b, h, c => by
    cases b <;> simp only [Value.same, Bool.false_eq_true] at h
    cases c <;> simp only [Value.same, and_self]
    exact Value.sameItems_congr as _ h _
  | .set as, b, h, c => by
    cases b <;> simp only [Value.same, Bool.false_eq_true] at h
    cases c <;> simp only [Value.same, and_self]
    exact Value.sameItems_congr as _ h _
  | .map as, b, h, c => by
    cases b <;> simp only [Value.same, Bool.false_eq_true] at h
    cases c <;> simp only [Value.same, and_self]
    exact Value.sameEntries_congr as _ h _
  | .vertex a, b, h, c => by
    cases b <;> simp only [Value.same, Bool.false_eq_true] at h
    cases c <;> simp only [Value.same, and_self]
    exact Vertex.same_congr a _ h _
  | .edge a, b, h, c => by
    cases b <;> simp only [Value.same, Bool.false_eq_true] at h
    cases c <;> simp only [Value.same, and_self]
    exact Edge.same_congr a _ h _
  | .vertexProperty a, b, h, c => by
    cases b <;> simp only [Value.same, Bool.false_eq_true] at h
    cases c <;> simp only [Value.same, and_self]
    exact VertexProperty.same_congr a _ h _
  | .property a, b, h, c => by
    cases b <;> simp only [Value.same, Bool.false_eq_true] at h
    cases c <;> simp only [Value.same, and_self]
    exact Property.same_congr a _ h _
  | .path a, b, h, c => by
    cases b <;> simp only [Value.same, Bool.false_eq_true] at h
    cases c <;> simp only [Value.same, and_self]
    exact Path.same_congr a _ h _
  | .timestamp a, b, h, c => by
    cases b <;> simp only [Value.same, Bool.false_eq_true, beq_iff_eq] at h
    exact h ▸ ⟨rfl, rfl⟩
termination_by structural a => a

theorem Value.sameItems_congr : (as bs : List Value) → Value.sameItems as bs = true →
    ∀ cs : List Value, Value.sameItems as cs = Value.sameItems bs cs ∧
      Value.sameItems cs as = Value.sameItems cs bs
  | [], bs, h, cs => by
    cases bs <;> simp only [Value.sameItems, Bool.false_eq_true] at h
    exact ⟨rfl, rfl⟩
  | a :: as, bs, h, cs => by
    cases bs <;> simp only [Value.sameItems, Bool.false_eq_true, Bool.and_eq_true] at h
    cases cs with
    | nil => simp only [Value.sameItems, and_self]
    | cons c cs =>
      have ha := Value.same_congr a _ h.1 c
      have has := Value.sameItems_congr as _ h.2 cs
      simp only [Value.sameItems, ha, has, and_self]
termination_by structural a => a

theorem Value.sameEntries_congr : (as bs : List (String × Value)) →
    Value.sameEntries as bs = true → ∀ cs : List (String × Value),
      Value.sameEntries as cs = Value.sameEntries bs cs ∧
        Value.sameEntries cs as = Value.sameEntries cs bs
  | [], bs, h, cs => by
    cases bs <;> simp only [Value.sameEntries, Bool.false_eq_true] at h
    exact ⟨rfl, rfl⟩
  | (k, a) :: as, bs, h, cs => by
    rcases bs with _ | ⟨⟨l, b⟩, bs⟩ <;>
      simp only [Value.sameEntries, Bool.false_eq_true, Bool.and_eq_true, beq_iff_eq] at h
    obtain ⟨⟨rfl, ha⟩, has⟩ := h
    rcases cs with _ | ⟨⟨m, c⟩, cs⟩
    · simp only [Value.sameEntries, and_self]
    · have ha := Value.same_congr a b ha c
      have has := Value.sameEntries_congr as bs has cs
      simp only [Value.sameEntries, ha, has, and_self]
termination_by structural a => a

theorem Vertex.same_congr : (a b : Vertex) → a.same b = true → ∀ c : Vertex,
    a.same c = b.same c ∧ c.same a = c.same b
  | ⟨i, l, ps⟩, ⟨j, m, qs⟩, h, ⟨id, label, properties⟩ => by
    simp only [Vertex.same, Bool.and_eq_true, beq_iff_eq] at h
    obtain ⟨⟨hi, rfl⟩, hps⟩ := h
    have hi := Value.same_congr i j hi id
    have hps := Vertex.sameProperties_congr ps qs hps properties
    simp only [Vertex.same, hi, hps, and_self]
termination_by structural a => a

theorem Vertex.sameProperties_congr : (as bs : List (String × List VertexProperty)) →
    Vertex.sameProperties as bs = true → ∀ cs : List (String × List VertexProperty),
      Vertex.sameProperties as cs = Vertex.sameProperties bs cs ∧
        Vertex.sameProperties cs as = Vertex.sameProperties cs bs
  | [], bs, h, cs => by
    cases bs <;> simp only [Vertex.sameProperties, Bool.false_eq_true] at h
    exact ⟨rfl, rfl⟩
  | (k, a) :: as, bs, h, cs => by
    rcases bs with _ | ⟨⟨l, b⟩, bs⟩ <;>
      simp only [Vertex.sameProperties, Bool.false_eq_true, Bool.and_eq_true, beq_iff_eq] at h
    obtain ⟨⟨rfl, ha⟩, has⟩ := h
    rcases cs with _ | ⟨⟨m, c⟩, cs⟩
    · simp only [Vertex.sameProperties, and_self]
    · have ha := VertexProperty.sameItems_congr a b ha c
      have has := Vertex.sameProperties_congr as bs has cs
      simp only [Vertex.sameProperties, ha, has, and_self]
termination_by structural a => a

theorem VertexProperty.sameItems_congr : (as bs : List VertexProperty) →
    VertexProperty.sameItems as bs = true → ∀ cs : List VertexProperty,
      VertexProperty.sameItems as cs = VertexProperty.sameItems bs cs ∧
        VertexProperty.sameItems cs as = VertexProperty.sameItems cs bs
  | [], bs, h, cs => by
    cases bs <;> simp only [VertexProperty.sameItems, Bool.false_eq_true] at h
    exact ⟨rfl, rfl⟩
  | a :: as, bs, h, cs => by
    cases bs <;> simp only [VertexProperty.sameItems, Bool.false_eq_true, Bool.and_eq_true] at h
    cases cs with
    | nil => simp only [VertexProperty.sameItems, and_self]
    | cons c cs =>
      have ha := VertexProperty.same_congr a _ h.1 c
      have has := VertexProperty.sameItems_congr as _ h.2 cs
      simp only [VertexProperty.sameItems, ha, has, and_self]
termination_by structural a => a

theorem VertexProperty.same_congr : (a b : VertexProperty) → a.same b = true →
    ∀ c : VertexProperty, a.same c = b.same c ∧ c.same a = c.same b
  | ⟨i, l, v, none⟩, ⟨j, m, w, qs⟩, h, ⟨id, label, value, properties⟩ => by
    cases qs <;>
      simp only [VertexProperty.same, Bool.false_eq_true, Bool.and_eq_true, beq_iff_eq] at h
    obtain ⟨⟨hi, rfl⟩, hv⟩ := h
    have hi := Value.same_congr i j hi id
    have hv := Value.same_congr v w hv value
    cases properties <;> simp only [VertexProperty.same, hi, hv, and_self]
  | ⟨i, l, v, some ps⟩, ⟨j, m, w, qs⟩, h, ⟨id, label, value, properties⟩ => by
    cases qs <;>
      simp only [VertexProperty.same, Bool.false_eq_true, Bool.and_eq_true, beq_iff_eq] at h
    obtain ⟨⟨⟨hi, rfl⟩, hv⟩, hps⟩ := h
    have hi := Value.same_congr i j hi id
    have hv := Value.same_congr v w hv value
    cases properties with
    | none => simp only [VertexProperty.same, and_self]
    | some properties =>
      have hps := Value.sameEntries_congr ps _ hps properties
      simp only [VertexProperty.same, hi, hv, hps, and_self]
termination_by structural a => a

theorem EdgeVertex.same_congr : (a b : EdgeVertex) → a.same b = true → ∀ c : EdgeVertex,
    a.same c = b.same c ∧ c.same a = c.same b
  | ⟨i, l⟩, ⟨j, m⟩, h, ⟨id, label⟩ => by
    simp only [EdgeVertex.same, Bool.and_eq_true, beq_iff_eq] at h
    obtain ⟨hi, rfl⟩ := h
    have hi := Value.same_congr i j hi id
    simp only [EdgeVertex.same, hi, and_self]
termination_by structural a => a

theorem Edge.same_congr : (a b : Edge) → a.same b = true → ∀ c : Edge,
    a.same c = b.same c ∧ c.same a = c.same b
  | ⟨i, l, iv, ov, ps⟩, ⟨j, m, jv, pv, qs⟩, h, ⟨id, label, inVertex, outVertex, properties⟩ => by
    simp only [Edge.same, Bool.and_eq_true, beq_iff_eq] at h
    obtain ⟨⟨⟨⟨hi, rfl⟩, hin⟩, hout⟩, hps⟩ := h
    have hi := Value.same_congr i j hi id
    have hin := EdgeVertex.same_congr iv jv hin inVertex
    have hout := EdgeVertex.same_congr ov pv hout outVertex
    have hps := Value.sameEntries_congr ps qs hps properties
    simp only [Edge.same, hi, hin, hout, hps, and_self]
termination_by structural a => a

theorem Property.same_congr : (a b : Property) → a.same b = true → ∀ c : Property,
    a.same c = b.same c ∧ c.same a = c.same b
  | ⟨k, v⟩, ⟨l, w⟩, h, ⟨key, value⟩ => by
    simp only [Property.same, Bool.and_eq_true, beq_iff_eq] at h
    obtain ⟨rfl, hv⟩ := h
    have hv := Value.same_congr v w hv value
    simp only [Property.same, hv, and_self]
termination_by structural a => a

theorem Path.same_congr : (a b : Path) → a.same b = true → ∀ c : Path,
    a.same c = b.same c ∧ c.same a = c.same b
  | ⟨ks, os⟩, ⟨ls, ps⟩, h, ⟨labels, objects⟩ => by
    simp only [Path.same, Bool.and_eq_true, beq_iff_eq] at h
    obtain ⟨rfl, hos⟩ := h
    have hos := Value.sameItems_congr os ps hos objects
    simp only [Path.same, hos, and_self]
termination_by structural a => a

end

namespace Value

variable {a b c : Value}

theorem same_symm (h : a.same b = true) : b.same a = true := by
  have haa : a.same a = true := (same_congr a b h a).2.trans h
  exact (same_congr a b h a).1 ▸ haa

theorem same_trans (hab : a.same b = true) (hbc : b.same c = true) : a.same c = true :=
  (same_congr a b hab c).1.trans hbc

theorem same_comm (a b : Value) : a.same b = b.same a :=
  Bool.eq_iff_iff.2 ⟨same_symm, same_symm⟩

end Value

/-! ### Values that equal themselves -/

lemma Double.same_self (x : Double) : x.same x = !x.isNaN := by
  cases h : x.isNaN <;> simp [Double.same, h]

mutual

/-- A value equals itself exactly if there is nothing in it that is no number. -/
theorem Value.same_self_iff : (v : Value) → (v.same v = true ↔ ¬ v.HoldsNaN)
  | .null | .boolean _ | .integer _ | .string _ | .timestamp _ => by
    rw [Value.not_holdsNaN_iff]
    simp [Value.same, Value.parts]
  | .float x => by
    rw [Value.same, Double.same_self, Value.not_holdsNaN_iff]
    simp [Value.parts]
  | .list items | .set items => by
    rw [Value.same, Value.sameItems_self_iff items, Value.not_holdsNaN_iff]
    simp [Value.parts]
  | .map entries => by
    rw [Value.same, Value.sameEntries_self_iff entries, Value.not_holdsNaN_iff, Value.parts,
      List.forall_mem_map]
    simp
  | .vertex v => by
    rw [Value.same, Vertex.same_self_iff v, Value.not_holdsNaN_iff]
    simp [Value.parts]
  | .edge e => by
    rw [Value.same, Edge.same_self_iff e, Value.not_holdsNaN_iff]
    simp [Value.parts]
  | .vertexProperty p => by
    rw [Value.same, VertexProperty.same_self_iff p, Value.not_holdsNaN_iff]
    simp [Value.parts]
  | .property ⟨key, v⟩ => by
    rw [Value.same, Property.same, Value.not_holdsNaN_iff (.property ⟨key, v⟩)]
    simp [Value.parts, Value.same_self_iff v]
  | .path ⟨_, objects⟩ => by
    rw [Value.same, Path.same, Bool.and_eq_true, Value.sameItems_self_iff objects,
      Value.not_holdsNaN_iff]
    simp [Value.parts]
termination_by structural v => v

theorem Value.sameItems_self_iff : (items : List Value) →
    (Value.sameItems items items = true ↔ ∀ item ∈ items, ¬ item.HoldsNaN)
  | [] => by simp [Value.sameItems]
  | v :: vs => by
    rw [Value.sameItems, Bool.and_eq_true, Value.same_self_iff v, Value.sameItems_self_iff vs,
      List.forall_mem_cons]
termination_by structural v => v

theorem Value.sameEntries_self_iff : (entries : List (String × Value)) →
    (Value.sameEntries entries entries = true ↔ ∀ entry ∈ entries, ¬ entry.2.HoldsNaN)
  | [] => by simp [Value.sameEntries]
  | (k, v) :: rest => by
    rw [Value.sameEntries, Bool.and_eq_true, Bool.and_eq_true, Value.same_self_iff v,
      Value.sameEntries_self_iff rest, List.forall_mem_cons]
    simp
termination_by structural v => v

theorem Vertex.same_self_iff : (v : Vertex) →
    (v.same v = true ↔ ∀ part ∈ v.parts, ¬ part.HoldsNaN)
  | ⟨id, label, properties⟩ => by
    rw [Vertex.same, Bool.and_eq_true, Bool.and_eq_true, Value.same_self_iff id,
      Vertex.sameProperties_self_iff properties, Vertex.parts, List.forall_mem_cons]
    simp only [beq_self_eq_true, and_true, List.forall_mem_flatMap]
termination_by structural v => v

theorem Vertex.sameProperties_self_iff : (properties : List (String × List VertexProperty)) →
    (Vertex.sameProperties properties properties = true ↔
      ∀ entry ∈ properties, ∀ p ∈ entry.2, ∀ part ∈ p.parts, ¬ part.HoldsNaN)
  | [] => by simp [Vertex.sameProperties]
  | (k, ps) :: rest => by
    rw [Vertex.sameProperties, Bool.and_eq_true, Bool.and_eq_true,
      VertexProperty.sameItems_self_iff ps, Vertex.sameProperties_self_iff rest,
      List.forall_mem_cons]
    simp
termination_by structural v => v

theorem VertexProperty.sameItems_self_iff : (ps : List VertexProperty) →
    (VertexProperty.sameItems ps ps = true ↔ ∀ p ∈ ps, ∀ part ∈ p.parts, ¬ part.HoldsNaN)
  | [] => by simp [VertexProperty.sameItems]
  | p :: ps => by
    rw [VertexProperty.sameItems, Bool.and_eq_true, VertexProperty.same_self_iff p,
      VertexProperty.sameItems_self_iff ps, List.forall_mem_cons]
termination_by structural v => v

theorem VertexProperty.same_self_iff : (p : VertexProperty) →
    (p.same p = true ↔ ∀ part ∈ p.parts, ¬ part.HoldsNaN)
  | ⟨id, label, value, none⟩ => by
    simp [VertexProperty.same, VertexProperty.parts, Value.same_self_iff id,
      Value.same_self_iff value]
  | ⟨id, label, value, some properties⟩ => by
    rw [VertexProperty.parts, List.forall_mem_cons, List.forall_mem_cons, List.forall_mem_map]
    simp only [VertexProperty.same, Bool.and_eq_true, beq_self_eq_true, and_true,
      Value.same_self_iff id, Value.same_self_iff value, Value.sameEntries_self_iff properties,
      Option.getD_some, and_assoc]
termination_by structural v => v

theorem Edge.same_self_iff : (e : Edge) →
    (e.same e = true ↔ ∀ part ∈ e.parts, ¬ part.HoldsNaN)
  | ⟨id, label, ⟨inId, inLabel⟩, ⟨outId, outLabel⟩, properties⟩ => by
    rw [Edge.parts, List.forall_mem_cons, List.forall_mem_cons, List.forall_mem_cons,
      List.forall_mem_map]
    simp only [Edge.same, EdgeVertex.same, Bool.and_eq_true, beq_self_eq_true, and_true,
      Value.same_self_iff id, Value.same_self_iff inId, Value.same_self_iff outId,
      Value.sameEntries_self_iff properties, and_assoc]
termination_by structural v => v

end

end GraphClient
