import GraphClient.Proofs.Decoding

/-!
# Documents without types

A document whose objects name no types can also be read without a decoder: each kind of value is
tried in turn until one takes the document. Every decoder makes the same of it, whatever handlers
it has, because no handler is ever asked for.
-/

namespace GraphClient

namespace Json

/-- A document is a part of itself, and so are the parts of its items and of its members. -/
inductive Within (part : Json) : Json → Prop
  | self : Within part part
  | item {item : Json} {items : List Json} (hi : item ∈ items) (h : Within part item) :
      Within part (.array items)
  | member {member : String × Json} {members : List (String × Json)} (hm : member ∈ members)
      (h : Within part member.2) : Within part (.object members)

/-- No object of the document has a text for the name of a type. -/
def Untyped (json : Json) : Prop :=
  ∀ part, Within part json → ∀ tag, part.member? GraphSON.typeKey ≠ some (.string tag)

lemma untyped_of_leaf {json : Json} (ha : ∀ items, json ≠ .array items)
    (ho : ∀ members, json ≠ .object members) : json.Untyped := by
  intro part h tag hp
  cases h with
  | self =>
    cases json with
    | object members => exact ho members rfl
    | _ => cases hp
  | item => exact ha _ rfl
  | member => exact ho _ rfl

@[simp] lemma untyped_null : Json.null.Untyped := untyped_of_leaf nofun nofun

@[simp] lemma untyped_bool (b : Bool) : (Json.bool b).Untyped := untyped_of_leaf nofun nofun

@[simp] lemma untyped_number (n : Number) : (Json.number n).Untyped :=
  untyped_of_leaf nofun nofun

@[simp] lemma untyped_string (text : String) : (Json.string text).Untyped :=
  untyped_of_leaf nofun nofun

@[simp] lemma untyped_array {items : List Json} :
    (Json.array items).Untyped ↔ ∀ item ∈ items, item.Untyped := by
  constructor
  · intro h item hi part hp
    exact h part (.item hi hp)
  · intro h part hp
    cases hp with
    | self => exact fun _ => nofun
    | item hi hp => exact h _ hi part hp

@[simp] lemma untyped_object {members : List (String × Json)} :
    (Json.object members).Untyped ↔
      (∀ tag, Entries.get? members GraphSON.typeKey ≠ some (.string tag)) ∧
        ∀ member ∈ members, member.2.Untyped := by
  constructor
  · intro h
    exact ⟨h _ .self, fun member hm part hp => h part (.member hm hp)⟩
  · intro h part hp
    cases hp with
    | self => exact h.1
    | member hm hp => exact h.2 _ hm part hp

def asBool? : Json → Option Bool
  | .bool b => some b
  | _ => none

def asNumber? : Json → Option Number
  | .number n => some n
  | _ => none

end Json

namespace Value

variable (timestamp? : Json → Option Timestamp)

/-- What each kind of value takes a document for, in the order in which the kinds are tried. The
items of an array and the members of an object have been read before, `timestamp?` reads times. -/
def takes (items : Option (List Value)) (members : Option (Entries Value)) (json : Json) :
    List (Option Value) :=
  [match json with | .null => some .null | _ => none,
    json.asBool?.map .boolean,
    (json.asNumber?.bind (·.toInt64?)).map .integer,
    json.asNumber?.map fun n => .float n.toDouble,
    json.asString?.map .string,
    items.map .list,
    items.map .set,
    members.map .map,
    (Vertex.ofJson? json).map .vertex,
    (Edge.ofJson? json).map .edge,
    (VertexProperty.ofJson? json).map .vertexProperty,
    (Property.ofJson? json).map .property,
    (Path.ofJson? json).map .path,
    (timestamp? json).map .timestamp]

/-- The first kind of value that takes a document. -/
def firstOf (takes : List (Option Value)) : Option Value := takes.findSome? id

mutual

/-- A document as a value of the first kind that takes it. -/
def untagged? : Json → Option Value
  | .null => firstOf (takes timestamp? none none .null)
  | .bool b => firstOf (takes timestamp? none none (.bool b))
  | .number n => firstOf (takes timestamp? none none (.number n))
  | .string text => firstOf (takes timestamp? none none (.string text))
  | .array items => firstOf (takes timestamp? (untaggedItems? items) none (.array items))
  | .object members =>
    firstOf (takes timestamp? none (untaggedMembers? members) (.object members))

/-- An array is a list only if all its items are values. -/
def untaggedItems? : List Json → Option (List Value)
  | [] => some []
  | json :: rest => do
    let item ← untagged? json
    let items ← untaggedItems? rest
    return item :: items

/-- An object is a map only if all its members are values. -/
def untaggedMembers? : List (String × Json) → Option (Entries Value)
  | [] => some []
  | (name, json) :: rest => do
    let member ← untagged? json
    let members ← untaggedMembers? rest
    return (name, member) :: members

end

/-- A number is an integer if 64 bits hold it; only otherwise is it tried as a float. -/
lemma firstOf_number (n : Json.Number) :
    firstOf (takes timestamp? none none (.number n)) = some n.toValue := by
  rw [Json.Number.toValue]
  cases h : n.toInt64? <;> simp [firstOf, takes, Json.asBool?, Json.asNumber?, h]

mutual

/-- The first kind that takes a document is the one of its form. -/
theorem untagged?_eq : (json : Json) → untagged? timestamp? json = some (ofJson json)
  | .null => rfl
  | .bool _ => rfl
  | .number n => firstOf_number timestamp? n
  | .string _ => rfl
  | .array items => by
    rw [untagged?, untaggedItems?_eq items]
    rfl
  | .object members => by
    rw [untagged?, untaggedMembers?_eq members]
    rfl

theorem untaggedItems?_eq : (items : List Json) →
    untaggedItems? timestamp? items = some (ofJsonItems items)
  | [] => rfl
  | json :: rest => by
    rw [untaggedItems?, untagged?_eq json, untaggedItems?_eq rest]
    rfl

theorem untaggedMembers?_eq : (members : List (String × Json)) →
    untaggedMembers? timestamp? members = some (ofJsonMembers members)
  | [] => rfl
  | (name, json) :: rest => by
    rw [untaggedMembers?, untagged?_eq json, untaggedMembers?_eq rest]
    rfl

end

end Value

namespace GraphSON

namespace Decoder

variable (d : Decoder)

lemma value_of_untyped {json : Json} (h : json.Untyped) : d.value json = (d.read json).bare :=
  value_of_bare d (Envelope.ofJson?_eq_none_iff.2 (h json .self))

mutual

/-- A document without types stands for its form, at every depth. -/
theorem value_eq_ofJson : (json : Json) → json.Untyped → d.value json = Value.ofJson json
  | .null, _ => rfl
  | .bool _, _ => rfl
  | .number _, _ => rfl
  | .string _, _ => rfl
  | .array items, h => by
    rw [value_of_untyped d h, bare_array, Value.ofJson,
      map_value_eq_ofJsonItems items (Json.untyped_array.1 h)]
  | .object members, h => by
    rw [value_of_untyped d h, bare_object, Value.ofJson,
      map_value_eq_ofJsonMembers members (Json.untyped_object.1 h).2]

theorem map_value_eq_ofJsonItems : (items : List Json) → (∀ item ∈ items, item.Untyped) →
    items.map d.value = Value.ofJsonItems items
  | [], _ => rfl
  | json :: rest, h => by
    rw [List.map_cons, Value.ofJsonItems, value_eq_ofJson json (h json List.mem_cons_self),
      map_value_eq_ofJsonItems rest fun item hi => h item (List.mem_cons_of_mem _ hi)]

theorem map_value_eq_ofJsonMembers : (members : List (String × Json)) →
    (∀ member ∈ members, member.2.Untyped) →
    (members.map fun member => (member.1, d.value member.2)) = Value.ofJsonMembers members
  | [], _ => rfl
  | (name, json) :: rest, h => by
    rw [List.map_cons, Value.ofJsonMembers,
      value_eq_ofJson json (h (name, json) List.mem_cons_self),
      map_value_eq_ofJsonMembers rest fun member hm => h member (List.mem_cons_of_mem _ hm)]

end

/-- All decoders make the same of a document without types: the value that it is read as without
any decoder, which is that of its form. -/
theorem value_of_plain {json : Json} (h : json.Untyped) (d₁ d₂ : Decoder)
    (timestamp? : Json → Option Timestamp) :
    d₁.value json = d₂.value json ∧ Value.untagged? timestamp? json = some (d₁.value json) ∧
      d₁.value json = Value.ofJson json := by
  have h₁ : d₁.value json = Value.ofJson json := value_eq_ofJson d₁ json h
  refine ⟨?_, ?_, h₁⟩
  · rw [h₁, value_eq_ofJson d₂ json h]
  · rw [h₁, Value.untagged?_eq]

/-- A document whose member for types is no text, with integers on both sides of 64 bits. -/
def plainDocument : Json :=
  .object [(typeKey, .number (.int 7)), (valueKey, .string Tag.int32),
    ("items", .array [.null, .bool true, .number (.int 9223372036854775807),
      .number (.int 9223372036854775808), .array [.object [(valueKey, .string "x")]]])]

theorem value_of_plainDocument : plainDocument.Untyped ∧
    standard.value plainDocument = empty.value plainDocument ∧
    Value.untagged? (fun _ => none) plainDocument = some (standard.value plainDocument) ∧
    standard.value plainDocument =
      .map [(typeKey, .integer 7), (valueKey, .string Tag.int32),
        ("items", .list [.null, .boolean true, .integer Int64.maxValue,
          .float (Double.ofInt 9223372036854775808), .list [.map [(valueKey, .string "x")]]])] := by
  have h : plainDocument.Untyped := by
    simp [plainDocument, Entries.get?, List.lookup_cons, typeKey, valueKey]
  obtain ⟨hd, hu, hv⟩ := value_of_plain h standard empty fun _ => none
  exact ⟨h, hd, hu, hv.trans rfl⟩

end Decoder

end GraphSON

end GraphClient
