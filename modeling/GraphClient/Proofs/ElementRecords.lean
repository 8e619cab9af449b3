import GraphClient.Proofs.PlainValues

/-!
# Graph elements as records

A graph element is written as an object with a member for each field. Where the values in it are
plain data, the reader of its kind takes every field back from the member of the same name, and a
vertex property without properties of its own keeps apart from one with none in its map.
-/

namespace GraphClient

open Value

/-- What a reader takes back one by one, it takes back from a list. -/
lemma mapM_map_eq_some {α β : Type} {write : α → β} {read? : β → Option α} {xs : List α}
    (h : ∀ x ∈ xs, read? (write x) = some x) : (xs.map write).mapM read? = some xs := by
  induction xs with
  | nil => rfl
  | cons x xs ih =>
    rw [List.map_cons, List.mapM_cons, h x List.mem_cons_self,
      ih fun y hy => h y (List.mem_cons_of_mem _ hy)]
    rfl

lemma entries?_of_plain {entries : Entries Value} (h : ∀ entry ∈ entries, entry.2.Plain) :
    (Json.object (entriesToJson entries)).entries? = some entries := by
  rw [Json.entries?, ofJsonMembers_entriesToJson fun entry he => ofJson_toJson (h entry he)]

/-- The values of a vertex property are plain data. -/
structure VertexProperty.HoldsPlain (p : VertexProperty) : Prop where
  id : p.id.Plain
  value : p.value.Plain
  properties : ∀ entries, p.properties = some entries → ∀ entry ∈ entries, entry.2.Plain

structure Vertex.HoldsPlain (v : Vertex) : Prop where
  id : v.id.Plain
  properties : ∀ entry ∈ v.properties, ∀ p ∈ entry.2, p.HoldsPlain

structure Edge.HoldsPlain (e : Edge) : Prop where
  id : e.id.Plain
  inVertex : e.inVertex.id.Plain
  outVertex : e.outVertex.id.Plain
  properties : ∀ entry ∈ e.properties, entry.2.Plain

namespace VertexProperty

lemma ofJson?_toJson {p : VertexProperty} (h : p.HoldsPlain) : ofJson? p.toJson = some p := by
  obtain ⟨id, label, value, properties⟩ := p
  have hid : ofJson id.toJson = id := ofJson_toJson h.id
  have hvalue : ofJson value.toJson = value := ofJson_toJson h.value
  cases properties with
  | none =>
    -- the record leaves the member out, and only an object may do so
    have hfields : Json.record? ["id", "label", "value", "properties"]
        (toJson ⟨id, label, value, none⟩) =
        some ⟨false, [some id.toJson, some (.string label), some value.toJson, none]⟩ := rfl
    rw [ofJson?, hfields]
    dsimp only
    rw [hid, hvalue]
    rfl
  | some properties =>
    have hfields : Json.record? ["id", "label", "value", "properties"]
        (toJson ⟨id, label, value, some properties⟩) =
        some ⟨false, [some id.toJson, some (.string label), some value.toJson,
          some (.object (entriesToJson properties))]⟩ := rfl
    rw [ofJson?, hfields]
    dsimp only
    rw [hid, hvalue, entries?_of_plain (h.properties properties rfl)]
    rfl

lemma itemsToJson_eq_map (ps : List VertexProperty) : itemsToJson ps = ps.map toJson := by
  induction ps with
  | nil => rfl
  | cons p ps ih => rw [itemsToJson, ih, List.map_cons]

lemma listOfJson?_itemsToJson {ps : List VertexProperty} (h : ∀ p ∈ ps, p.HoldsPlain) :
    listOfJson? (.array (itemsToJson ps)) = some ps := by
  rw [listOfJson?, itemsToJson_eq_map]
  exact mapM_map_eq_some fun p hp => ofJson?_toJson (h p hp)

end VertexProperty

namespace Vertex

lemma propertiesToJson_eq_map (properties : Entries (List VertexProperty)) :
    propertiesToJson properties =
      properties.map fun entry => (entry.1, .array (VertexProperty.itemsToJson entry.2)) := by
  induction properties with
  | nil => rfl
  | cons entry properties ih => rw [propertiesToJson, ih, List.map_cons]

lemma propertiesOfJson?_propertiesToJson {properties : Entries (List VertexProperty)}
    (h : ∀ entry ∈ properties, ∀ p ∈ entry.2, p.HoldsPlain) :
    propertiesOfJson? (.object (propertiesToJson properties)) = some properties := by
  rw [propertiesOfJson?, propertiesToJson_eq_map]
  refine mapM_map_eq_some fun entry he => ?_
  dsimp only
  rw [VertexProperty.listOfJson?_itemsToJson (h entry he)]
  rfl

lemma ofJson?_toJson {v : Vertex} (h : v.HoldsPlain) : ofJson? v.toJson = some v := by
  obtain ⟨id, label, properties⟩ := v
  have hfields : Json.record? ["id", "label", "properties"] (toJson ⟨id, label, properties⟩) =
      some ⟨false, [some id.toJson, some (.string label),
        some (.object (propertiesToJson properties))]⟩ := rfl
  rw [ofJson?, hfields]
  dsimp only
  rw [ofJson_toJson h.id, propertiesOfJson?_propertiesToJson h.properties]
  rfl

end Vertex

lemma EdgeVertex.ofJson?_toJson {v : EdgeVertex} (h : v.id.Plain) :
    ofJson? v.toJson = some v := by
  obtain ⟨id, label⟩ := v
  have hfields : Json.record? ["id", "label"] (toJson ⟨id, label⟩) =
      some ⟨false, [some id.toJson, some (.string label)]⟩ := rfl
  rw [ofJson?, hfields]
  dsimp only
  rw [ofJson_toJson h]

lemma Edge.ofJson?_toJson {e : Edge} (h : e.HoldsPlain) : ofJson? e.toJson = some e := by
  obtain ⟨id, label, inVertex, outVertex, properties⟩ := e
  have hfields : Json.record? ["id", "label", "in_vertex", "out_vertex", "properties"]
      (toJson ⟨id, label, inVertex, outVertex, properties⟩) =
      some ⟨false, [some id.toJson, some (.string label), some inVertex.toJson,
        some outVertex.toJson, some (.object (entriesToJson properties))]⟩ := rfl
  rw [ofJson?, hfields]
  dsimp only
  rw [ofJson_toJson h.id, EdgeVertex.ofJson?_toJson h.inVertex,
    EdgeVertex.ofJson?_toJson h.outVertex, entries?_of_plain h.properties]
  rfl

lemma Property.ofJson?_toJson {p : Property} (h : p.value.Plain) : ofJson? p.toJson = some p := by
  obtain ⟨key, value⟩ := p
  have hfields : Json.record? ["key", "value"] (toJson ⟨key, value⟩) =
      some ⟨false, [some (.string key), some value.toJson]⟩ := rfl
  rw [ofJson?, hfields]
  dsimp only
  rw [ofJson_toJson h]

namespace Path

lemma strings?_ofLabels (labels : List (List String)) :
    (labels.map fun step => Json.array (step.map .string)).mapM Json.strings? = some labels :=
  mapM_map_eq_some fun _ _ => mapM_map_eq_some fun _ _ => rfl

lemma ofJson?_toJson {p : Path} (h : ∀ object ∈ p.objects, object.Plain) :
    ofJson? p.toJson = some p := by
  obtain ⟨labels, objects⟩ := p
  have hfields : Json.record? ["labels", "objects"] (toJson ⟨labels, objects⟩) =
      some ⟨false, [some (Json.ofLabels labels), some (.array (Value.itemsToJson objects))]⟩ := rfl
  have hobjects : ofJsonItems (Value.itemsToJson objects) = objects :=
    ofJsonItems_itemsToJson fun object ho => ofJson_toJson (h object ho)
  rw [ofJson?, hfields, Json.ofLabels]
  dsimp only
  rw [strings?_ofLabels, hobjects]
  rfl

end Path

/-- An element of each kind whose values are plain data is read back from its record as it was, so
that absent properties of a vertex property stay absent and an empty map of them stays one. The
values in it come back because the first kind that takes their JSON is their own. -/
theorem elements_read_back :
    (∀ v : Vertex, v.HoldsPlain → Vertex.ofJson? v.toJson = some v) ∧
      (∀ e : Edge, e.HoldsPlain → Edge.ofJson? e.toJson = some e) ∧
      (∀ v : EdgeVertex, v.id.Plain → EdgeVertex.ofJson? v.toJson = some v) ∧
      (∀ p : VertexProperty, p.HoldsPlain → VertexProperty.ofJson? p.toJson = some p) ∧
      (∀ p : Property, p.value.Plain → Property.ofJson? p.toJson = some p) ∧
      (∀ p : Path, (∀ object ∈ p.objects, object.Plain) → Path.ofJson? p.toJson = some p) ∧
      (∀ v : Value, v.Plain → ∀ timestamp? : Json → Option Timestamp,
        untagged? timestamp? v.toJson = some v) := by
  refine ⟨fun _ => Vertex.ofJson?_toJson, fun _ => Edge.ofJson?_toJson,
    fun _ => EdgeVertex.ofJson?_toJson, fun _ => VertexProperty.ofJson?_toJson,
    fun _ => Property.ofJson?_toJson, fun _ => Path.ofJson?_toJson, fun v hv timestamp? => ?_⟩
  rw [untagged?_eq, ofJson_toJson hv]

/-- A name without properties of its own, with an empty map of them, and with one. -/
def Vertex.person : Vertex :=
  ⟨.integer 1, "person", [("name", [⟨.integer 10, "name", .string "marko", none⟩,
    ⟨.null, "name", .map [("parts", .list [])], some []⟩,
    ⟨.integer 12, "name", .float (.zero true), some [("since", .integer 2009)]⟩])]⟩

def Edge.created : Edge :=
  ⟨.string "e", "created", ⟨.integer 3, "software"⟩, ⟨Vertex.person.id, "person"⟩,
    [("weight", .map [("value", .list [.boolean true, .map []])])]⟩

def Path.trail : Path :=
  ⟨[["a", "b"], []], [Vertex.person.id, .map [(GraphSON.typeKey, .string GraphSON.Tag.token)]]⟩

theorem elements_read_back_of_person :
    Vertex.person.HoldsPlain ∧ Vertex.ofJson? Vertex.person.toJson = some Vertex.person ∧
      (Vertex.person.propertiesOf "name").map
          (fun p => (VertexProperty.ofJson? p.toJson).map (·.properties)) =
        [some none, some (some []), some (some [("since", .integer 2009)])] ∧
      Edge.created.HoldsPlain ∧ Edge.ofJson? Edge.created.toJson = some Edge.created ∧
      EdgeVertex.ofJson? Edge.created.inVertex.toJson = some Edge.created.inVertex ∧
      Property.ofJson? (Property.toJson ⟨"id", Edge.created.id⟩) = some ⟨"id", Edge.created.id⟩ ∧
      Path.ofJson? Path.trail.toJson = some Path.trail ∧
      untagged? (fun _ => none) Edge.created.id.toJson = some Edge.created.id := by
  obtain ⟨hvertex, hedge, hend, hvertexProperty, hproperty, hpath, hvalue⟩ := elements_read_back
  have hzero : (Double.zero true).isFinite = true := by decide
  have hnames : ∀ p ∈ Vertex.person.propertiesOf "name", p.HoldsPlain := by
    have hentry : ∀ entry ∈ [("since", Value.integer 2009)], entry.2.Plain := by simp
    change ∀ p ∈ ([_, _, _] : List VertexProperty), p.HoldsPlain
    simp only [List.forall_mem_cons]
    exact ⟨⟨.integer 10, .string _, nofun⟩, ⟨.null, by simp, fun _ h => by cases h; simp⟩,
      ⟨.integer 12, .float hzero, fun _ h => by cases h; exact hentry⟩, nofun⟩
  have hperson : Vertex.person.HoldsPlain :=
    ⟨.integer 1, fun entry he p hp => by cases List.mem_singleton.1 he; exact hnames p hp⟩
  have hcreated : Edge.created.HoldsPlain :=
    ⟨.string "e", .integer 3, .integer 1, by simp [Edge.created]⟩
  have htrail : ∀ object ∈ Path.trail.objects, object.Plain := by simp [Path.trail, Vertex.person]
  refine ⟨hperson, hvertex _ hperson, ?_, hcreated, hedge _ hcreated, hend _ hcreated.inVertex,
    hproperty _ hcreated.id, hpath _ htrail, hvalue _ hcreated.id _⟩
  rw [List.map_congr_left fun p hp => congrArg _ (hvertexProperty p (hnames p hp))]
  rfl

end GraphClient
