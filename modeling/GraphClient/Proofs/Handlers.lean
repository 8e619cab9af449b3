import GraphClient.Proofs.PlainDocuments

/-!
# The reach of a handler

What a decoder makes of a document depends only on its handlers for the types that the document
names, so a handler for another type changes nothing in it. A type without a handler stands for the
form of its payload, which is what the payload stands for by itself unless it is an envelope too.
-/

namespace GraphClient

namespace Json

/-- An object somewhere in the document names the type. -/
def Names (json : Json) (tag : String) : Prop :=
  ∃ part, Within part json ∧ part.member? GraphSON.typeKey = some (.string tag)

variable {tag : String}

@[simp] lemma names_array {items : List Json} :
    (Json.array items).Names tag ↔ ∃ item ∈ items, item.Names tag := by
  constructor
  · rintro ⟨part, hw, ht⟩
    cases hw with
    | self => cases ht
    | item hi hw => exact ⟨_, hi, part, hw, ht⟩
  · rintro ⟨item, hi, part, hw, ht⟩
    exact ⟨part, .item hi hw, ht⟩

@[simp] lemma names_object {members : List (String × Json)} :
    (Json.object members).Names tag ↔
      Entries.get? members GraphSON.typeKey = some (.string tag) ∨
        ∃ member ∈ members, member.2.Names tag := by
  constructor
  · rintro ⟨part, hw, ht⟩
    cases hw with
    | self => exact .inl ht
    | member hm hw => exact .inr ⟨_, hm, part, hw, ht⟩
  · rintro (ht | ⟨member, hm, part, hw, ht⟩)
    · exact ⟨_, .self, ht⟩
    · exact ⟨part, .member hm hw, ht⟩

lemma not_names_of_untyped {json : Json} (h : json.Untyped) : ¬ json.Names tag := by
  rintro ⟨part, hw, ht⟩
  exact h part hw tag ht

@[simp] lemma not_names_null : ¬ Json.null.Names tag := not_names_of_untyped untyped_null

@[simp] lemma not_names_bool (b : Bool) : ¬ (Json.bool b).Names tag :=
  not_names_of_untyped (untyped_bool b)

@[simp] lemma not_names_number (n : Number) : ¬ (Json.number n).Names tag :=
  not_names_of_untyped (untyped_number n)

@[simp] lemma not_names_string (text : String) : ¬ (Json.string text).Names tag :=
  not_names_of_untyped (untyped_string text)

end Json

namespace GraphSON.Decoder

variable {d₁ d₂ : Decoder}

/-- Decoders that have the same handler for the type of a content make the same part of it. -/
lemma partOf_congr {content : Content}
    (h : ∀ tag payload, Part.tagged? content = some (tag, payload) →
      d₁.handler? tag = d₂.handler? tag) :
    d₁.partOf content = d₂.partOf content := by
  have hvalue : d₁.valueOf content = d₂.valueOf content := by
    rw [valueOf, valueOf]
    cases ht : Part.tagged? content with
    | none => rfl
    | some typed =>
      dsimp only
      rw [h typed.1 typed.2 ht]
  rw [partOf, partOf, hvalue]

mutual

/-- A document is read alike by decoders with the same handlers for the types that it names. -/
theorem read_congr : (json : Json) →
    (∀ tag, json.Names tag → d₁.handler? tag = d₂.handler? tag) → d₁.read json = d₂.read json
  | .null, _ => rfl
  | .bool _, _ => rfl
  | .number _, _ => rfl
  | .string _, _ => rfl
  | .array items, h => by
    rw [read, read, readItems_congr items fun item hi tag ht =>
      h tag (Json.names_array.2 ⟨item, hi, ht⟩)]
    rfl
  | .object members, h => by
    have hmembers : d₁.readMembers members = d₂.readMembers members :=
      readMembers_congr members fun member hm tag ht =>
        h tag (Json.names_object.2 (.inr ⟨member, hm, ht⟩))
    rw [read, read, hmembers]
    refine partOf_congr fun tag payload ht => ?_
    change Part.tagged? (d₂.read (.object members)).content = _ at ht
    rw [tagged?_read, Option.map_eq_some_iff] at ht
    obtain ⟨e, he, htag⟩ := ht
    cases htag
    exact h e.tag ⟨_, .self, Envelope.member?_of_ofJson? he⟩

theorem readItems_congr : (items : List Json) →
    (∀ item ∈ items, ∀ tag, item.Names tag → d₁.handler? tag = d₂.handler? tag) →
    d₁.readItems items = d₂.readItems items
  | [], _ => rfl
  | json :: rest, h => by
    rw [readItems, readItems, read_congr json (h json List.mem_cons_self),
      readItems_congr rest fun item hi => h item (List.mem_cons_of_mem _ hi)]

theorem readMembers_congr : (members : List (String × Json)) →
    (∀ member ∈ members, ∀ tag, member.2.Names tag → d₁.handler? tag = d₂.handler? tag) →
    d₁.readMembers members = d₂.readMembers members
  | [], _ => rfl
  | (name, json) :: rest, h => by
    rw [readMembers, readMembers, read_congr json (h (name, json) List.mem_cons_self),
      readMembers_congr rest fun member hm => h member (List.mem_cons_of_mem _ hm)]

end

/-- A handler for a type that no object of a document names has no part in what becomes of it:
every part keeps its value, and the response brings the same results. -/
theorem register_of_not_names (d : Decoder) {tag : String} (handler : Handler) {json : Json}
    (h : ¬ json.Names tag) :
    (d.register tag handler).value json = d.value json ∧
      (d.register tag handler).results (some json) = d.results (some json) := by
  have hread : (d.register tag handler).read json = d.read json := by
    refine read_congr json fun other hother => ?_
    have hne : other ≠ tag := fun heq => h (heq ▸ hother)
    rw [handler?_register, if_neg hne]
  have hvalue : (d.register tag handler).value json = d.value json := congrArg Part.value hread
  refine ⟨hvalue, ?_⟩
  rw [results, results, decode, decode, Option.map_some, Option.map_some, hvalue]

/-- One of every standard type that has parts, with no 32-bit integer in it. -/
def everyContainer : Json :=
  let wire (tag : String) (payload : Json) : Json := Envelope.toJson ⟨tag, payload⟩
  let long (n : Int) : Json := wire Tag.int64 (.number (.int n))
  wire Tag.list (.array [
    wire Tag.vertex (.object [("id", long 1), ("label", .string "person"),
      ("properties", .object [("name", .array [wire Tag.vertexProperty (.object
        [("value", .string "marko"), ("properties", .object [("since", long 2009)])])])])]),
    wire Tag.edge (.object [("id", .null), ("inV", long 1), ("properties", .object
      [("weight", wire Tag.property (.object [("key", .string "weight"), ("value", long 2)]))])]),
    wire Tag.path (.object [("labels", wire Tag.list (.array [wire Tag.set (.array [])])),
      ("objects", wire Tag.list (.array [.bool true]))]),
    wire Tag.map (.array [long 3, wire Tag.set (.array [long 4, long 4])]),
    wire Tag.bulkSet (.array [.string "marko", long 2]),
    wire Tag.traverser (.object [("bulk", long 1), ("value", long 5)])])

/-- With another handler for 32-bit integers the document stays as it is, and such an integer does
not. -/
theorem register_of_everyContainer :
    ¬ everyContainer.Names Tag.int32 ∧
      (standard.register Tag.int32 Handler.formName).value everyContainer =
        standard.value everyContainer ∧
      (standard.register Tag.int32 Handler.formName).results (some everyContainer) =
        standard.results (some everyContainer) ∧
      (standard.register Tag.int32 Handler.formName).value
        (Envelope.toJson ⟨Tag.int32, .number (.int 7)⟩) = .string "kind:number" ∧
      standard.value (Envelope.toJson ⟨Tag.int32, .number (.int 7)⟩) = .integer 7 := by
  have hnames : ¬ everyContainer.Names Tag.int32 := by
    simp [everyContainer, Envelope.toJson, Entries.get?, List.lookup_cons, typeKey, valueKey,
      Tag.list, Tag.int64, Tag.vertex, Tag.vertexProperty, Tag.edge, Tag.property, Tag.path,
      Tag.set, Tag.map, Tag.bulkSet, Tag.traverser, Tag.int32]
  obtain ⟨hvalue, hresults⟩ := register_of_not_names standard Handler.formName hnames
  exact ⟨hnames, hvalue, hresults, rfl, rfl⟩

/-- An envelope whose type has no handler stands for the form of its payload. -/
lemma value_eq_bare_of_not_handles (d : Decoder) {tag : String} (h : d.handles tag = false)
    (payload : Json) : d.value (Envelope.toJson ⟨tag, payload⟩) = (d.read payload).bare := by
  have hnone : d.handler? tag = none := by simpa [handles] using h
  rw [value_eq, Envelope.ofJson?_toJson]
  dsimp only
  rw [hnone]
  rfl

/-- A type without a handler is transparent for a payload that is no envelope. A payload that is one
is not decoded as such: it becomes a map of its members, in which the name of its type is left. -/
theorem value_of_unhandled (d : Decoder) {tag : String} (h : d.handles tag = false)
    (payload : Json) :
    (Envelope.ofJson? payload = none →
        d.value (Envelope.toJson ⟨tag, payload⟩) = d.value payload) ∧
      ∀ inner, Envelope.ofJson? payload = some inner → ∃ members entries,
        payload = .object members ∧
          entries = members.map (fun member => (member.1, d.value member.2)) ∧
          d.value (Envelope.toJson ⟨tag, payload⟩) = .map entries ∧
          Entries.get? entries typeKey = some (.string inner.tag) := by
  constructor
  · intro hbare
    rw [value_eq_bare_of_not_handles d h, value_of_bare d hbare]
  · intro inner hinner
    have hmember := Envelope.member?_of_ofJson? hinner
    cases payload with
    | object members =>
      refine ⟨members, _, rfl, rfl, ?_, ?_⟩
      · rw [value_eq_bare_of_not_handles d h, bare_object]
      · have hget : Entries.get? members typeKey = some (.string inner.tag) := hmember
        rw [Entries.get?_map, hget]
        rfl
    | _ => cases hmember

/-- A duration by its name. -/
def duration : String × Json :=
  ("dur", Envelope.toJson ⟨Tag.double, .number (.float ⟨0x3ff8000000000000⟩)⟩)

/-- The duration in a typed map, as metrics hold it. -/
def metrics : Json := Envelope.toJson ⟨Tag.map, .array [.string duration.1, duration.2]⟩

/-- The type of metrics has no handler. Around a bare object it does not count, and the typed map in
it comes out as the map of its own envelope. -/
theorem value_of_metrics :
    standard.handles "g:TraversalMetrics" = false ∧
      standard.value (Envelope.toJson ⟨"g:TraversalMetrics", .object [duration]⟩) =
        standard.value (.object [duration]) ∧
      standard.value (.object [duration]) = .map [("dur", .float ⟨0x3ff8000000000000⟩)] ∧
      standard.value metrics = .map [("dur", .float ⟨0x3ff8000000000000⟩)] ∧
      standard.value (Envelope.toJson ⟨"g:TraversalMetrics", metrics⟩) =
        .map [(typeKey, .string Tag.map),
          (valueKey, .list [.string "dur", .float ⟨0x3ff8000000000000⟩])] := by
  have hnone : standard.handles "g:TraversalMetrics" = false := rfl
  have hbare := (value_of_unhandled standard hnone (.object [duration])).1 rfl
  obtain ⟨members, entries, hmembers, hentries, hvalue, -⟩ :=
    (value_of_unhandled standard hnone metrics).2 _ (Envelope.ofJson?_toJson _)
  cases hmembers
  exact ⟨hnone, hbare, rfl, rfl, hvalue.trans (congrArg Value.map hentries)⟩

end GraphSON.Decoder

end GraphClient
