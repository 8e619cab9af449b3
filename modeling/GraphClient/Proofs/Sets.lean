import GraphClient.Proofs.Decoding
import GraphClient.Proofs.FirstOccurrences

/-!
# Sets in results

A wire set becomes the set of the first occurrences among its decoded items. No other type makes a
set, and none takes one apart and puts it together anew, so a set in a result has no two equal
items, however deep it lies and whatever holds it.
-/

namespace GraphClient

open GraphSON

namespace Value

variable {items : List Value}

/-! ### Values without equal items in their sets -/

/-- No set in the value has two equal items. -/
def Proper (v : Value) : Prop := ∀ items, Occurs (.set items) v → AllDiffer items

lemma proper_iff (v : Value) :
    v.Proper ↔ (∀ items, v = .set items → AllDiffer items) ∧ ∀ part ∈ v.parts, part.Proper := by
  constructor
  · intro h
    exact ⟨fun items hv => h items (hv ▸ .self), fun part hp items ho => h items (.inPart hp ho)⟩
  · rintro ⟨hself, hparts⟩ items ho
    rcases occurs_iff.1 ho with hv | ⟨part, hp, ho⟩
    · exact hself items hv
    · exact hparts part hp items ho

lemma Proper.part {part v : Value} (h : v.Proper) (hp : part ∈ v.parts) : part.Proper :=
  ((proper_iff v).1 h).2 part hp

@[simp] lemma proper_null : Value.null.Proper := by
  rw [proper_iff]
  simp [parts]

@[simp] lemma proper_boolean (b : Bool) : (Value.boolean b).Proper := by
  rw [proper_iff]
  simp [parts]

@[simp] lemma proper_integer (n : Int64) : (Value.integer n).Proper := by
  rw [proper_iff]
  simp [parts]

@[simp] lemma proper_float (x : Double) : (Value.float x).Proper := by
  rw [proper_iff]
  simp [parts]

@[simp] lemma proper_string (text : String) : (Value.string text).Proper := by
  rw [proper_iff]
  simp [parts]

@[simp] lemma proper_timestamp (t : Timestamp) : (Value.timestamp t).Proper := by
  rw [proper_iff]
  simp [parts]

@[simp] lemma proper_list : (Value.list items).Proper ↔ ∀ item ∈ items, item.Proper := by
  rw [proper_iff]
  simp [parts]

@[simp] lemma proper_set :
    (Value.set items).Proper ↔ AllDiffer items ∧ ∀ item ∈ items, item.Proper := by
  rw [proper_iff]
  simp [parts]

@[simp] lemma proper_map {entries : Entries Value} :
    (Value.map entries).Proper ↔ ∀ entry ∈ entries, entry.2.Proper := by
  rw [proper_iff, parts, List.forall_mem_map]
  simp

end Value

namespace GraphSON

open Value

/-! ### Sets in documents -/

def Content.parts : Content → List Part
  | .array items => items
  | .object members => members.map Prod.snd
  | _ => []

/-- The values of a part and of all parts inside it are proper. -/
inductive Part.Proper : Part → Prop
  | intro {part : Part} (value : part.value.Proper)
      (parts : ∀ inner ∈ part.content.parts, Part.Proper inner) : Part.Proper part

/-- A handler whose values are proper if those inside the payload are. -/
def Handler.KeepsProper (handler : Handler) : Prop :=
  ∀ payload : Part, (∀ inner ∈ payload.content.parts, inner.Proper) → (handler payload).Proper

section Parts

variable {part payload : Part} {content : Content} {members : Entries Part}

lemma Part.Proper.value (h : part.Proper) : part.value.Proper := by
  cases h with | intro value => exact value

lemma Part.Proper.parts (h : part.Proper) : ∀ inner ∈ part.content.parts, inner.Proper := by
  cases h with | intro _ parts => exact parts

lemma Part.proper_null : Part.null.Proper := .intro Value.proper_null nofun

lemma Content.proper_bare (h : ∀ inner ∈ content.parts, inner.Proper) : content.bare.Proper := by
  cases content with
  | number n =>
    rw [bare, Json.Number.toValue]
    split <;> simp
  | array items =>
    rw [bare, proper_list, List.forall_mem_map]
    exact fun item hi => (h item hi).value
  | object members =>
    rw [bare, proper_map, List.forall_mem_map]
    exact fun member hm => (h _ (List.mem_map_of_mem hm)).value
  | _ => simp [bare]

lemma proper_of_get? {key : String} (hm : ∀ member ∈ members, member.2.Proper)
    (h : Entries.get? members key = some part) : part.Proper :=
  hm (key, part) (Entries.mem_of_get? h)

lemma proper_of_member? {key : String} (hc : ∀ inner ∈ content.parts, inner.Proper)
    (h : content.member? key = some part) : part.Proper := by
  cases content with
  | object members => exact proper_of_get? (List.forall_mem_map.1 hc) h
  | _ => cases h

lemma proper_of_tagged? {tag : String} (hc : ∀ inner ∈ content.parts, inner.Proper)
    (h : Part.tagged? content = some (tag, payload)) : payload.Proper := by
  rw [Part.tagged?] at h
  split at h
  · cases h
    cases hv : content.member? valueKey with
    | none => exact Part.proper_null
    | some inner => exact proper_of_member? hc hv
  · cases h

lemma Part.Proper.untag (h : part.Proper) : part.untag.Proper := by
  rw [Part.untag]
  cases ht : Part.tagged? part.content with
  | none => exact h
  | some typed => exact proper_of_tagged? h.parts ht

/-! ### Elements -/

lemma proper_valueOf (hm : ∀ member ∈ members, member.2.Proper) (key : String) :
    (valueOf members key).Proper := by
  rw [valueOf]
  cases h : Entries.get? members key with
  | none => exact Value.proper_null
  | some part => exact (proper_of_get? hm h).value

lemma proper_of_objectOf? {key : String} {inner : Entries Part}
    (hm : ∀ member ∈ members, member.2.Proper) (h : objectOf? members key = some inner) :
    ∀ member ∈ inner, member.2.Proper := by
  rw [objectOf?] at h
  split at h
  · rename_i hget
    cases h
    exact List.forall_mem_map.1 (proper_of_get? hm hget).parts
  · cases h

lemma proper_propertyValue (h : part.Proper) : (propertyValue part).Proper := by
  have hv := h.value
  rw [propertyValue]
  split
  · rename_i hp
    rw [hp] at hv
    exact hv.part List.mem_cons_self
  · exact hv

lemma proper_propertyValues (hm : ∀ member ∈ members, member.2.Proper) :
    ∀ entry ∈ propertyValues members, entry.2.Proper := by
  rw [propertyValues, List.forall_mem_map]
  exact fun member hmem => proper_propertyValue (hm member hmem)

lemma proper_wireElements (h : part.Proper) : ∀ element ∈ Vertex.wireElements part,
    element.Proper := by
  have hu := h.untag
  rw [Vertex.wireElements]
  split
  · rename_i items heq
    rw [heq] at hu
    exact hu.parts
  · exact fun element he => List.mem_singleton.1 he ▸ hu

/-- What a vertex property holds is proper if the parts are that it is made of. -/
lemma proper_ofWire (hm : ∀ member ∈ members, member.2.Proper) :
    ∀ inner ∈ (VertexProperty.ofWire members).parts, inner.Proper := by
  rw [VertexProperty.ofWire, VertexProperty.parts, List.forall_mem_cons, List.forall_mem_cons,
    List.forall_mem_map]
  refine ⟨proper_valueOf hm _, proper_valueOf hm _, ?_⟩
  cases h : objectOf? members "properties" with
  | none => exact nofun
  | some inner => exact proper_propertyValues (proper_of_objectOf? hm h)

lemma proper_new {v : Value} (h : v.Proper) (key : String) :
    ∀ inner ∈ (VertexProperty.new .null key v).parts, inner.Proper := by
  simp [VertexProperty.new, VertexProperty.parts, h]

lemma proper_ofWireBody (h : part.Proper) (key : String) :
    ∀ inner ∈ (VertexProperty.ofWireBody key part).parts, inner.Proper := by
  rw [VertexProperty.ofWireBody]
  split
  · rename_i members hc
    have hp := proper_ofWire (List.forall_mem_map.1 (hc ▸ h.parts))
    dsimp only
    split <;> exact hp
  · exact proper_new h.value key

lemma proper_ofWireElement (h : part.Proper) (key : String) :
    ∀ inner ∈ (VertexProperty.ofWireElement key part).parts, inner.Proper := by
  rw [VertexProperty.ofWireElement]
  split
  · rename_i tag payload ht
    split
    · exact proper_ofWireBody (proper_of_tagged? h.parts ht) key
    · exact proper_new h.value key
  · exact proper_ofWireBody h key

lemma proper_vertex (hm : ∀ member ∈ members, member.2.Proper) :
    ∀ inner ∈ (Vertex.ofWire members).parts, inner.Proper := by
  rw [Vertex.ofWire, Vertex.parts, List.forall_mem_cons, List.flatMap_map, List.forall_mem_flatMap]
  refine ⟨proper_valueOf hm _, fun entry he => ?_⟩
  have hentry : entry.2.Proper := by
    cases h : objectOf? members "properties" with
    | none =>
      rw [h] at he
      cases he
    | some properties =>
      rw [h] at he
      exact proper_of_objectOf? hm h entry he
  rw [List.flatMap_map, List.forall_mem_flatMap]
  exact fun element helement =>
    proper_ofWireElement (proper_wireElements hentry element helement) entry.1

lemma proper_edge (hm : ∀ member ∈ members, member.2.Proper) :
    ∀ inner ∈ (Edge.ofWire members).parts, inner.Proper := by
  rw [Edge.ofWire, Edge.parts, List.forall_mem_cons, List.forall_mem_cons, List.forall_mem_cons,
    List.forall_mem_map]
  refine ⟨proper_valueOf hm _, proper_valueOf hm _, proper_valueOf hm _, ?_⟩
  cases h : objectOf? members "properties" with
  | none => exact nofun
  | some inner => exact proper_propertyValues (proper_of_objectOf? hm h)

lemma proper_path (hm : ∀ member ∈ members, member.2.Proper) :
    ∀ object ∈ (Path.ofWire members).objects, object.Proper := by
  have hv := proper_valueOf hm "objects"
  rw [Path.ofWire]
  dsimp only
  split
  · rename_i items heq
    exact proper_list.1 (heq ▸ hv)
  · rename_i items heq
    exact (proper_set.1 (heq ▸ hv)).2
  · exact nofun
  · exact fun object ho => List.mem_singleton.1 ho ▸ hv

end Parts

/-! ### Handlers and decoders -/

namespace Handler

@[simp] lemma keepsProper_plain : plain.KeepsProper := fun _ h => Content.proper_bare h

/-- What is made of an object is proper if it is no set and its parts are proper. -/
lemma keepsProper_element {make : Entries Part → Value}
    (hset : ∀ members items, make members ≠ .set items)
    (h : ∀ members : Entries Part, (∀ member ∈ members, member.2.Proper) →
      ∀ part ∈ (make members).parts, part.Proper) : (element make).KeepsProper := by
  intro payload hp
  rw [element]
  split
  · rename_i members hc
    rw [hc] at hp
    exact (proper_iff _).2 ⟨fun items hv => absurd hv (hset members items),
      h members (List.forall_mem_map.1 hp)⟩
  · exact Content.proper_bare hp

@[simp] lemma keepsProper_list : list.KeepsProper := by
  intro payload hp
  rw [list]
  split
  · rename_i items hc
    rw [hc] at hp
    rw [proper_list, List.forall_mem_map]
    exact fun item hi => (hp item hi).value
  · exact Content.proper_bare hp

@[simp] lemma keepsProper_set : set.KeepsProper := by
  intro payload hp
  rw [set]
  split
  · rename_i items hc
    rw [hc] at hp
    have hitems : ∀ item ∈ items.map (·.value), item.Proper :=
      List.forall_mem_map.2 fun item hi => (hp item hi).value
    rw [proper_set]
    exact ⟨allDiffer_distinct _, fun item hi => hitems item ((distinct_sublist _).subset hi)⟩
  · exact Content.proper_bare hp

lemma mem_of_mem_pairs {items : List Part} {pair : Part × Option Part} (h : pair ∈ pairs items) :
    pair.1 ∈ items ∧ ∀ second, pair.2 = some second → second ∈ items := by
  fun_induction pairs items with
  | case1 => cases h
  | case2 a =>
    cases List.mem_singleton.1 h
    exact ⟨List.mem_cons_self, nofun⟩
  | case3 a b rest ih =>
    rcases List.mem_cons.1 h with rfl | h
    · exact ⟨List.mem_cons_self, fun second hs => by cases hs; simp⟩
    · obtain ⟨hfirst, hsecond⟩ := ih h
      exact ⟨by simp [hfirst], fun second hs => by simp [hsecond second hs]⟩

@[simp] lemma keepsProper_map : map.KeepsProper := by
  intro payload hp
  rw [map]
  split
  · rename_i items hc
    rw [hc] at hp
    rw [proper_map]
    intro entry he
    obtain ⟨pair, hpair, rfl⟩ := List.mem_map.1 (Entries.mem_ofList he)
    cases hv : pair.2 with
    | none => simp [hv]
    | some second => simpa [hv] using (hp second ((mem_of_mem_pairs hpair).2 second hv)).value
  · exact Content.proper_bare hp

@[simp] lemma keepsProper_integer : integer.KeepsProper := by
  intro payload hp
  rw [integer]
  split
  · exact proper_integer _
  · exact Content.proper_bare hp

@[simp] lemma keepsProper_float : float.KeepsProper := by
  intro payload hp
  rw [float]
  split
  · exact proper_float _
  · split <;> simp
  · exact Content.proper_bare hp

@[simp] lemma keepsProper_timestamp : timestamp.KeepsProper := by
  intro payload hp
  rw [timestamp]
  split
  · split
    · exact proper_timestamp _
    · exact Content.proper_bare hp
  · exact Content.proper_bare hp

@[simp] lemma keepsProper_bulkSet : bulkSet.KeepsProper := by
  intro payload hp
  rw [bulkSet]
  split
  · rename_i items hc
    rw [hc] at hp
    rw [proper_list, List.forall_mem_flatMap]
    intro pair hpair v hv
    exact List.eq_of_mem_replicate hv ▸ (hp _ (mem_of_mem_pairs hpair).1).value
  · exact Content.proper_bare hp

@[simp] lemma keepsProper_traverser : traverser.KeepsProper := by
  intro payload hp
  rw [traverser]
  split
  · rename_i inner hinner
    exact (proper_of_member? hp hinner).value
  · rw [Part.untag]
    cases ht : Part.tagged? payload.content with
    | none => exact Content.proper_bare hp
    | some typed => exact Content.proper_bare (proper_of_tagged? hp ht).parts

@[simp] lemma keepsProper_vertex : vertex.KeepsProper :=
  keepsProper_element (fun _ _ => nofun) fun _ => proper_vertex

@[simp] lemma keepsProper_vertexProperty : vertexProperty.KeepsProper :=
  keepsProper_element (fun _ _ => nofun) fun _ => proper_ofWire

@[simp] lemma keepsProper_edge : edge.KeepsProper :=
  keepsProper_element (fun _ _ => nofun) fun _ => proper_edge

@[simp] lemma keepsProper_property : property.KeepsProper :=
  keepsProper_element (fun _ _ => nofun) fun _ hm _ hp =>
    List.mem_singleton.1 hp ▸ proper_valueOf hm "value"

@[simp] lemma keepsProper_path : path.KeepsProper :=
  keepsProper_element (fun _ _ => nofun) fun _ => proper_path

/-- Every standard handler keeps sets free of equal items. -/
lemma keepsProper_of_mem {tag : String} {handler : Handler}
    (h : (tag, handler) ∈ Decoder.standardHandlers) : handler.KeepsProper := by
  have hall : ∀ entry ∈ Decoder.standardHandlers, entry.2.KeepsProper := by
    simp [Decoder.standardHandlers]
  exact hall _ h

end Handler

namespace Decoder

/-- The standard decoder has no handlers but those in its table. -/
lemma mem_standardHandlers {tag : String} {handler : Handler}
    (h : standard.handler? tag = some handler) : (tag, handler) ∈ standardHandlers := by
  have htable : standard.handlers = Entries.ofList standardHandlers := rfl
  exact Entries.mem_ofList (htable ▸ Entries.mem_of_get? h)

lemma proper_partOf {content : Content} (h : ∀ inner ∈ content.parts, inner.Proper) :
    (standard.partOf content).Proper := by
  refine .intro ?_ h
  rw [value_partOf, valueOf]
  cases ht : Part.tagged? content with
  | none => exact Content.proper_bare h
  | some typed =>
    have hpayload := proper_of_tagged? h ht
    dsimp only
    cases hd : standard.handler? typed.1 with
    | none => exact Content.proper_bare hpayload.parts
    | some handler => exact Handler.keepsProper_of_mem (mem_standardHandlers hd) _ hpayload.parts

mutual

theorem proper_read : (json : Json) → (standard.read json).Proper
  | .null | .bool _ | .number _ | .string _ => proper_partOf nofun
  | .array items => proper_partOf (proper_readItems items)
  | .object members => proper_partOf (List.forall_mem_map.2 (proper_readMembers members))

theorem proper_readItems : (items : List Json) → ∀ part ∈ standard.readItems items, part.Proper
  | [] => nofun
  | json :: rest => List.forall_mem_cons.2 ⟨proper_read json, proper_readItems rest⟩

theorem proper_readMembers : (members : List (String × Json)) →
    ∀ member ∈ standard.readMembers members, member.2.Proper
  | [] => nofun
  | (_, json) :: rest => List.forall_mem_cons.2 ⟨proper_read json, proper_readMembers rest⟩

end

/-- No set in what a document decodes to has two equal items. A wire set becomes the first
occurrences among its decoded items, in their order, so that each item equals exactly one of them
unless it does not even equal itself, for a float in it that is no number. -/
theorem sets_of_first_occurrences (json : Json) :
    (∀ items, (Value.set items).Occurs (standard.value json) → AllDiffer items) ∧
      ∀ wire, Envelope.ofJson? json = some ⟨Tag.set, .array wire⟩ →
        standard.value json = .set (firsts (wire.map standard.value)) ∧
        (firsts (wire.map standard.value)).Sublist (wire.map standard.value) ∧
        ∀ item ∈ wire.map standard.value, (item.same item = true ↔ ¬ item.HoldsNaN) ∧
          (item.same item = true →
            (firsts (wire.map standard.value)).countP (item.same ·) = 1) := by
  refine ⟨(proper_read json).value, fun wire hj => ⟨?_, firsts_sublist _, fun item hi =>
    ⟨same_self_iff item, fun hself => ?_⟩⟩⟩
  · have hset : standard.handler? Tag.set = some Handler.set := rfl
    have hread : (standard.read (.array wire)).content = .array (wire.map standard.read) := by
      rw [read, readItems_eq_map]
      rfl
    rw [value_eq, hj]
    dsimp only
    rw [hset, Option.getD_some, Handler.set, hread]
    dsimp only
    rw [List.map_map, distinct_eq_firsts]
    rfl
  · rw [← distinct_eq_firsts]
    exact countP_distinct hi hself

def letters (names : List String) : Json := Envelope.toJson ⟨Tag.set, .array (names.map .string)⟩

/-- The two zeros, what is no number twice, one as a number and as a text, and sets in lists. -/
def repeatedItems : List Json :=
  [Envelope.toJson ⟨Tag.double, .number (.float (.zero false))⟩,
    Envelope.toJson ⟨Tag.double, .string "-0.0"⟩, Envelope.toJson ⟨Tag.double, .string "NaN"⟩,
    .number (.int 1), Envelope.toJson ⟨Tag.float, .string "NaN"⟩,
    Envelope.toJson ⟨Tag.int64, .string "1"⟩, .array [letters ["a", "b", "a"]],
    .array [letters ["a", "b"]]]

theorem sets_of_repeatedItems :
    standard.value (Envelope.toJson ⟨Tag.set, .array repeatedItems⟩) =
        .set [.float (.zero false), .float .nan, .integer 1, .float .nan,
          .list [.set [.string "a", .string "b"]]] ∧
      AllDiffer [.string "a", .string "b"] ∧ (Value.float .nan).HoldsNaN ∧
      (firsts (repeatedItems.map standard.value)).countP ((Value.integer 1).same ·) = 1 := by
  obtain ⟨hsets, hset⟩ :=
    sets_of_first_occurrences (Envelope.toJson ⟨Tag.set, .array repeatedItems⟩)
  obtain ⟨hvalue, -, hitems⟩ := hset repeatedItems (Envelope.ofJson?_toJson _)
  have hletters (names : List String) : standard.value (letters names) =
      .set (firsts ((names.map Json.string).map standard.value)) :=
    ((sets_of_first_occurrences (letters names)).2 _ (Envelope.ofJson?_toJson _)).1
  have hrepeated : standard.value (letters ["a", "b", "a"]) = .set [.string "a", .string "b"] := by
    rw [hletters]
    cbv
  have hplain : standard.value (letters ["a", "b"]) = .set [.string "a", .string "b"] := by
    rw [hletters]
    cbv
  have hdecoded : repeatedItems.map standard.value =
      [.float (.zero false), .float (.zero true), .float .nan, .integer 1, .float .nan, .integer 1,
        .list [standard.value (letters ["a", "b", "a"])],
        .list [standard.value (letters ["a", "b"])]] := rfl
  rw [hrepeated, hplain] at hdecoded
  have hzero : (Double.zero false).same (.zero true) = true := by decide
  have hnan : Double.nan.same .nan = false ∧ (Double.zero false).same .nan = false ∧
    (Double.zero true).same .nan = false := by decide
  have hfirsts : firsts (repeatedItems.map standard.value) = [.float (.zero false), .float .nan,
      .integer 1, .float .nan, .list [.set [.string "a", .string "b"]]] := by
    rw [hdecoded]
    simp [firsts, Value.same, Value.sameItems, hzero, hnan]
  rw [hfirsts] at hvalue
  refine ⟨hvalue, hsets _ ?_, ?_, (hitems (.integer 1) ?_).2 ?_⟩
  · rw [hvalue]
    have hinner : Occurs (.set [.string "a", .string "b"])
        (.list [.set [.string "a", .string "b"]]) := .inPart List.mem_cons_self .self
    exact .inPart (by simp [parts]) hinner
  · exact not_not.1 fun h => by
      simpa [Value.same, hnan.1] using (hitems (.float .nan) (by simp [hdecoded])).1.2 h
  · simp [hdecoded]
  · simp [Value.same]

end Decoder

end GraphSON

end GraphClient
