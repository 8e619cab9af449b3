import GraphClient.Proofs.Decoding
import Mathlib.Data.List.Forall2

/-!
# Properties of a vertex on the wire

A vertex lists the properties of each key. The list may stand alone or in an envelope, and so may
each property in it; all of these mean the same. A single property may stand in place of a list,
but then any type that it names is dropped before the property is decoded. So a single value of a
type of its own is not always what it would be in a list.
-/

namespace GraphClient

open GraphSON

namespace Entries

variable {α β : Type}

lemma map_insert (f : String → α → β) (entries : Entries α) (key : String) (value : α) :
    (insert entries key value).map (fun entry => (entry.1, f entry.1 entry.2)) =
      insert (entries.map fun entry => (entry.1, f entry.1 entry.2)) key (f key value) := by
  induction entries with
  | nil => rfl
  | cons entry rest ih =>
    rw [insert, List.map_cons, insert]
    split
    · rfl
    · split
      · rfl
      · rw [List.map_cons, ih]

end Entries

namespace GraphSON

/-- A member that is a text, or the empty text. -/
def memberText (members : Entries Json) (name : String) : String :=
  ((Entries.get? members name).bind Json.asString?).getD ""

namespace Decoder

/-- The value of a member, or null. -/
def memberValue (d : Decoder) (members : Entries Json) (name : String) : Value :=
  ((Entries.get? members name).map d.value).getD .null

variable (d : Decoder) (members : Entries Json) (name : String)

lemma valueOf_readMembers : GraphSON.valueOf (d.readMembers members) name =
    d.memberValue members name := by
  rw [GraphSON.valueOf, get?_readMembers, memberValue, Option.map_map]
  rfl

lemma labelOf_readMembers :
    labelOf (d.readMembers members) name = memberText members name := by
  rw [labelOf, get?_readMembers, memberText]
  cases Entries.get? members name with
  | none => rfl
  | some json => cases json <;> rfl

end Decoder

end GraphSON

namespace VertexProperty

variable {d : Decoder} {key : String} {json : Json} {body : Entries Json}

/-- The value of a property in a map of properties, of which an envelope of its own is dropped. -/
def ownValue : Value → Value
  | .property p => p.value
  | v => v

/-- The property under a key that a body stands for: the body may lack every part of it, and then
the key is the label. -/
def ofBody (d : Decoder) (key : String) (body : Entries Json) : VertexProperty :=
  { id := d.memberValue body "id"
    label := if memberText body "label" = "" then key else memberText body "label"
    value := d.memberValue body "value"
    properties := match Entries.get? body "properties" with
      | some (.object entries) =>
        some (entries.map fun entry => (entry.1, ownValue (d.value entry.2)))
      | _ => none }

lemma properties_readMembers (d : Decoder) (body : Entries Json) :
    (objectOf? (d.readMembers body) "properties").map propertyValues =
      (ofBody d key body).properties := by
  rw [objectOf?, d.get?_readMembers, ofBody]
  dsimp only
  cases Entries.get? body "properties" with
  | none => rfl
  | some json =>
    cases json with
    | object entries =>
      change some (propertyValues (d.readMembers entries)) = _
      rw [propertyValues, d.readMembers_eq_map, List.map_map]
      rfl
    | _ => rfl

lemma ofWireBody_object (d : Decoder) (key : String) (body : Entries Json) :
    ofWireBody key (d.read (.object body)) = ofBody d key body := by
  have hwire : ofWire (d.readMembers body) = ⟨d.memberValue body "id", memberText body "label",
      d.memberValue body "value", (ofBody d key body).properties⟩ := by
    rw [ofWire, d.valueOf_readMembers, d.valueOf_readMembers, d.labelOf_readMembers,
      properties_readMembers]
  have hcontent : (d.read (.object body)).content = .object (d.readMembers body) := rfl
  rw [ofWireBody, hcontent]
  dsimp only
  rw [hwire]
  by_cases h : memberText body "label" = "" <;> simp [ofBody, h]

/-- What one element stands for. -/
def ofElement (d : Decoder) (key : String) (json : Json) : VertexProperty :=
  ofWireElement key (d.read json)

lemma ofElement_eq (d : Decoder) (key : String) (json : Json) : ofElement d key json =
    match Envelope.ofJson? json with
    | some e => if e.tag = Tag.vertexProperty then ofWireBody key (d.read e.payload)
        else new .null key (d.value json)
    | none => ofWireBody key (d.read json) := by
  rw [ofElement, ofWireElement, d.tagged?_read]
  cases Envelope.ofJson? json <;> rfl

lemma ofWireBody_value (d : Decoder) (key : String) (h : ∀ body, json ≠ .object body) :
    ofWireBody key (d.read json) = new .null key (d.value json) := by
  cases json with
  | object body => exact absurd rfl (h body)
  | _ => rfl

lemma ofElement_bare (d : Decoder) (key : String) (h : Envelope.ofJson? json = none) :
    ofElement d key json = ofWireBody key (d.read json) := by
  rw [ofElement_eq, h]

lemma ofElement_typed (d : Decoder) (key : String) {payload : Json}
    (h : Envelope.ofJson? json = some ⟨Tag.vertexProperty, payload⟩) :
    ofElement d key json = ofWireBody key (d.read payload) := by
  rw [ofElement_eq, h]
  exact if_pos rfl

/-- An element of another type is a mere value. -/
lemma ofElement_other (d : Decoder) (key : String) {tag : String} {payload : Json}
    (h : Envelope.ofJson? json = some ⟨tag, payload⟩) (htag : tag ≠ Tag.vertexProperty) :
    ofElement d key json = new .null key (d.value json) := by
  rw [ofElement_eq, h]
  exact if_neg htag

/-- A body alone or in an envelope. -/
inductive WritesBody (body : Entries Json) : Json → Prop
  | bare : WritesBody body (.object body)
  | typed {json : Json} (h : Envelope.ofJson? json = some ⟨Tag.vertexProperty, .object body⟩) :
      WritesBody body json

lemma ofElement_of_writesBody (d : Decoder) (key : String) (h : WritesBody body json)
    (htype : ∀ tag, Entries.get? body typeKey ≠ some (.string tag)) :
    ofElement d key json = ofBody d key body := by
  cases h with
  | bare =>
    have hbare : Envelope.ofJson? (.object body) = none := Envelope.ofJson?_eq_none_iff.2 htype
    rw [ofElement_bare d key hbare, ofWireBody_object]
  | typed h => rw [ofElement_typed d key h, ofWireBody_object]

/-- A list of properties, alone or in an envelope, whose elements are written each in its way. -/
inductive WritesBodies (bodies : List (Entries Json)) : Json → Prop
  | bare {elements : List Json} (h : List.Forall₂ WritesBody bodies elements) :
      WritesBodies bodies (.array elements)
  | typed {elements : List Json} {json : Json} (h : List.Forall₂ WritesBody bodies elements)
      (hj : Envelope.ofJson? json = some ⟨Tag.list, .array elements⟩) : WritesBodies bodies json

end VertexProperty

namespace Vertex

open VertexProperty Decoder

variable {d : Decoder} {members properties : Entries Json} {key : String} {json json₁ json₂ : Json}

/-- The properties under a key that a document stands for. -/
def listOf (d : Decoder) (key : String) (json : Json) : List VertexProperty :=
  (wireElements (d.read json)).map (ofWireElement key)

lemma listOf_array {items : List Json} (h : untag json = .array items) :
    listOf d key json = items.map (ofElement d key) := by
  have hread : d.read (.array items) = d.partOf (.array (items.map d.read)) := by
    rw [Decoder.read, d.readItems_eq_map]
  rw [listOf, wireElements, d.untag_read, h, hread]
  change (items.map d.read).map (ofWireElement key) = _
  rw [List.map_map]
  rfl

lemma listOf_single (h : ∀ items, untag json ≠ .array items) :
    listOf d key json = [ofElement d key (untag json)] := by
  rw [listOf, wireElements, d.untag_read, ofElement]
  cases hu : untag json with
  | array items => exact absurd hu (h items)
  | _ => rfl

lemma map_ofElement {bodies : List (Entries Json)} {elements : List Json}
    (h : List.Forall₂ WritesBody bodies elements)
    (htype : ∀ body ∈ bodies, ∀ tag, Entries.get? body typeKey ≠ some (.string tag)) :
    elements.map (ofElement d key) = bodies.map (ofBody d key) := by
  induction h with
  | nil => rfl
  | cons hbody _ ih =>
    obtain ⟨hfirst, hrest⟩ := List.forall_mem_cons.1 htype
    rw [List.map_cons, List.map_cons, ofElement_of_writesBody d key hbody hfirst, ih hrest]

lemma listOf_of_writesBodies {bodies : List (Entries Json)} (h : WritesBodies bodies json)
    (htype : ∀ body ∈ bodies, ∀ tag, Entries.get? body typeKey ≠ some (.string tag)) :
    listOf d key json = bodies.map (ofBody d key) := by
  cases h with
  | bare he => rw [listOf_array rfl, map_ofElement he htype]
  | typed he hj => rw [listOf_array (untag_of_envelope hj), map_ofElement he htype]

/-- The vertex that a wire map stands for when a document is put under a key of its properties. -/
def ofWireWith (d : Decoder) (members properties : Entries Json) (key : String) (json : Json) :
    Vertex :=
  ofWire (d.readMembers
    (Entries.insert members "properties" (.object (Entries.insert properties key json))))

/-- Only the list under the key depends on the document. -/
lemma ofWireWith_eq (d : Decoder) (members properties : Entries Json) (key : String)
    (json : Json) : ofWireWith d members properties key json =
      { id := d.memberValue members "id"
        label := memberText members "label"
        properties := Entries.insert
          (properties.map fun entry => (entry.1, listOf d entry.1 entry.2)) key
          (listOf d key json) } := by
  have hid : "id" ≠ "properties" := by decide
  have hlabel : "label" ≠ "properties" := by decide
  have hproperties : objectOf? (d.readMembers (Entries.insert members "properties"
      (.object (Entries.insert properties key json)))) "properties" =
        some (d.readMembers (Entries.insert properties key json)) := by
    rw [objectOf?, d.get?_readMembers, Entries.get?_insert, if_pos rfl]
    rfl
  rw [ofWireWith, ofWire, d.valueOf_readMembers, d.labelOf_readMembers, hproperties,
    Decoder.memberValue, memberText, Entries.get?_insert, Entries.get?_insert, if_neg hid,
    if_neg hlabel, Option.getD_some, d.readMembers_eq_map, List.map_map]
  exact congrArg _ (Entries.map_insert (listOf d) properties key json)

/-- The list of a key can be told from the vertex. -/
lemma ofWireWith_inj : ofWireWith d members properties key json₁ =
      ofWireWith d members properties key json₂ ↔ listOf d key json₁ = listOf d key json₂ := by
  rw [ofWireWith_eq, ofWireWith_eq]
  constructor
  · intro h
    have hget := congrArg (fun v : Vertex => Entries.get? v.properties key) h
    dsimp only at hget
    rw [Entries.get?_insert, Entries.get?_insert, if_pos rfl, if_pos rfl] at hget
    exact Option.some_inj.1 hget
  · intro h
    rw [h]

/-- A vertex is the same however the list of properties under a key is written: alone or in an
envelope, with each body alone or in an envelope, whichever decoder is used. It then has one
property for each body under the key, in their order. -/
theorem properties_of_writesBodies (d : Decoder) (members properties : Entries Json)
    (key : String) {bodies : List (Entries Json)} {json₁ json₂ : Json}
    (htype : ∀ body ∈ bodies, ∀ tag, Entries.get? body typeKey ≠ some (.string tag))
    (h₁ : WritesBodies bodies json₁) (h₂ : WritesBodies bodies json₂) :
    ofWireWith d members properties key json₁ = ofWireWith d members properties key json₂ ∧
      Entries.get? (ofWireWith d members properties key json₁).properties key =
        some (bodies.map (ofBody d key)) := by
  have hlist₁ : listOf d key json₁ = bodies.map (ofBody d key) := listOf_of_writesBodies h₁ htype
  have hlist₂ : listOf d key json₂ = bodies.map (ofBody d key) := listOf_of_writesBodies h₂ htype
  refine ⟨ofWireWith_inj.2 (hlist₁.trans hlist₂.symm), ?_⟩
  rw [ofWireWith_eq, hlist₁]
  dsimp only
  rw [Entries.get?_insert, if_pos rfl]

/-- Two names, one of them with a label and a property of its own, and bodies without a label. -/
def nameBodies : List (Entries Json) :=
  [[("id", Envelope.toJson ⟨Tag.int64, .string "10"⟩), ("label", .string "nick"),
      ("properties", .object [("since", Envelope.toJson ⟨Tag.property,
        .object [("key", .string "since"), ("value", .number (.int 2009))]⟩)]),
      ("value", .string "marko")],
    [("label", .string ""), ("value", Envelope.toJson ⟨Tag.list, .array []⟩)],
    [(typeKey, .null), ("label", .number (.int 7))]]

/-- The bodies in envelopes where the list says so. -/
def nameElements (typed : List Bool) : List Json :=
  List.zipWith (fun body typed =>
    if typed then Envelope.toJson ⟨Tag.vertexProperty, .object body⟩ else .object body)
    nameBodies typed

theorem properties_of_nameBodies :
    ofWireWith standard [("label", .string "person")] [("age", .array [])] "name"
        (.array (nameElements [false, true, false])) =
      ofWireWith standard [("label", .string "person")] [("age", .array [])] "name"
        (Envelope.toJson ⟨Tag.list, .array (nameElements [true, true, false])⟩) ∧
    Entries.get? (ofWireWith standard [("label", .string "person")] [("age", .array [])] "name"
        (.array (nameElements [false, true, false]))).properties "name" =
      some [⟨.integer 10, "nick", .string "marko", some [("since", .integer 2009)]⟩,
        ⟨.null, "name", .list [], none⟩, ⟨.null, "name", .null, none⟩] := by
  have htyped (body : Entries Json) :
      WritesBody body (Envelope.toJson ⟨Tag.vertexProperty, .object body⟩) :=
    .typed (Envelope.ofJson?_toJson _)
  have htype : ∀ body ∈ nameBodies, ∀ tag, Entries.get? body typeKey ≠ some (.string tag) := by
    simp [nameBodies, Entries.get?, List.lookup_cons, typeKey]
  obtain ⟨hsame, hbodies⟩ := properties_of_writesBodies standard [("label", .string "person")]
    [("age", .array [])] "name" htype (.bare (.cons .bare (.cons (htyped _) (.cons .bare .nil))))
    (.typed (.cons (htyped _) (.cons (htyped _) (.cons .bare .nil))) (Envelope.ofJson?_toJson _))
  exact ⟨hsame, hbodies.trans rfl⟩

/-- A single document means the list with its payload in it, so its own type is lost. It means the
list with the document itself in it exactly if both elements stand for the same property: so for
one without a type, for a typed property, and for a value of another type if the value of the
payload is the same by itself. -/
theorem properties_of_single (d : Decoder) (members properties : Entries Json) (key : String)
    {json : Json} (h : ∀ items, untag json ≠ .array items) :
    let vertex := ofWireWith d members properties key
    vertex json = vertex (.array [untag json]) ∧
      (vertex json = vertex (.array [json]) ↔
        ofElement d key (untag json) = ofElement d key json) ∧
      (Envelope.ofJson? json = none → vertex json = vertex (.array [json])) ∧
      ∀ tag payload, Envelope.ofJson? json = some ⟨tag, payload⟩ →
        Envelope.ofJson? payload = none →
        (tag = Tag.vertexProperty → vertex json = vertex (.array [json])) ∧
        (tag ≠ Tag.vertexProperty → (∀ body, payload ≠ .object body) →
          (vertex json = vertex (.array [json]) ↔ d.value payload = d.value json)) := by
  intro vertex
  have hsingle : listOf d key json = [ofElement d key (untag json)] := listOf_single h
  have hlist (element : Json) : listOf d key (.array [element]) = [ofElement d key element] := by
    have harray : untag (.array [element]) = .array [element] := rfl
    rw [listOf_array harray, List.map_singleton]
  have hiff : vertex json = vertex (.array [json]) ↔
      ofElement d key (untag json) = ofElement d key json := by
    rw [ofWireWith_inj, hsingle, hlist, List.singleton_inj]
  refine ⟨ofWireWith_inj.2 (hsingle.trans (hlist _).symm), hiff, fun hbare => ?_,
    fun tag payload hj hpayload => ⟨?_, fun htag hvalue => ?_⟩⟩
  · rw [hiff, untag_of_bare hbare]
  · rintro rfl
    rw [hiff, untag_of_envelope hj, ofElement_typed d key hj, ofElement_bare d key hpayload]
  · rw [hiff, untag_of_envelope hj, ofElement_other d key hj htag, ofElement_bare d key hpayload,
      ofWireBody_value d key hvalue]
    simp [VertexProperty.new]

/-- A date by itself under a key becomes a mere number, and in a list it is a time. -/
def startDate : Json := Envelope.toJson ⟨Tag.date, .number (.int 0)⟩

theorem properties_of_startDate :
    (∀ items, untag startDate ≠ .array items) ∧
      (ofWireWith standard [] [] "start" startDate).properties =
        [("start", [⟨.null, "start", .integer 0, none⟩])] ∧
      (ofWireWith standard [] [] "start" (.array [startDate])).properties =
        [("start", [⟨.null, "start", .timestamp ⟨0⟩, none⟩])] ∧
      ofWireWith standard [] [] "start" startDate ≠
        ofWireWith standard [] [] "start" (.array [startDate]) := by
  have hpayload : untag startDate = .number (.int 0) := rfl
  have hsingle : ∀ items, untag startDate ≠ .array items := by
    rw [hpayload]
    nofun
  obtain ⟨hvertex, -, -, hdate⟩ := properties_of_single standard [] [] "start" hsingle
  have hne : standard.value (.number (.int 0)) ≠ standard.value startDate := by
    change Value.integer 0 ≠ .timestamp ⟨0⟩
    nofun
  refine ⟨hsingle, ?_, rfl, fun h => hne (((hdate Tag.date _ (Envelope.ofJson?_toJson _) rfl).2
    (by decide) nofun).1 h)⟩
  rw [hvertex]
  rfl

end Vertex

end GraphClient
