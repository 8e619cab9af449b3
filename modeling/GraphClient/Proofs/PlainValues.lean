import GraphClient.Proofs.PlainDocuments

/-!
# Plain values and their JSON

The JSON of plain data holds all that the data says. A reader that tries the kinds of values in
turn gives it back, and every decoder does so exactly if no map in it looks like an envelope.
-/

namespace GraphClient

open GraphSON

/-- An integer of 64 bits is taken for itself and not for a float. -/
lemma Json.Number.toInt64?_int (n : Int64) : (Number.int n.toInt).toInt64? = some n := by
  have hn : Int64.minValue.toInt ≤ n.toInt ∧ n.toInt ≤ Int64.maxValue.toInt :=
    ⟨n.minValue_le_toInt, n.toInt_le⟩
  rw [toInt64?, if_pos hn, Int64.ofInt_toInt]

namespace Value

/-- Plain data: no graph element, no time and no set in it, and only finite floats. -/
inductive Plain : Value → Prop
  | null : Plain .null
  | boolean (b : Bool) : Plain (.boolean b)
  | integer (n : Int64) : Plain (.integer n)
  | float {x : Double} (h : x.isFinite = true) : Plain (.float x)
  | string (text : String) : Plain (.string text)
  | list {items : List Value} (h : ∀ item ∈ items, Plain item) : Plain (.list items)
  | map {entries : List (String × Value)} (h : ∀ entry ∈ entries, Plain entry.2) :
    Plain (.map entries)

/-- A value is a part of itself, and so are the parts of its items and of its entries. -/
inductive Within (part : Value) : Value → Prop
  | self : Within part part
  | item {item : Value} {items : List Value} (hi : item ∈ items) (h : Within part item) :
      Within part (.list items)
  | entry {entry : String × Value} {entries : List (String × Value)} (he : entry ∈ entries)
      (h : Within part entry.2) : Within part (.map entries)

/-- Entries with a text where an envelope has the name of its type. -/
def NamesType (entries : Entries Value) : Prop :=
  ∃ text, Entries.get? entries typeKey = some (.string text)

/-- No map in the value names a type. -/
def Untyped (v : Value) : Prop := ∀ entries, Within (.map entries) v → ¬ NamesType entries

attribute [simp] Plain.null Plain.boolean Plain.integer Plain.string

@[simp] lemma plain_float {x : Double} : (Value.float x).Plain ↔ x.isFinite = true :=
  ⟨fun | .float h => h, .float⟩

@[simp] lemma plain_list {items : List Value} :
    (Value.list items).Plain ↔ ∀ item ∈ items, item.Plain :=
  ⟨fun | .list h => h, .list⟩

@[simp] lemma plain_map {entries : Entries Value} :
    (Value.map entries).Plain ↔ ∀ entry ∈ entries, entry.2.Plain :=
  ⟨fun | .map h => h, .map⟩

@[simp] lemma untyped_null : Value.null.Untyped := nofun

@[simp] lemma untyped_boolean (b : Bool) : (Value.boolean b).Untyped := nofun

@[simp] lemma untyped_integer (n : Int64) : (Value.integer n).Untyped := nofun

@[simp] lemma untyped_float (x : Double) : (Value.float x).Untyped := nofun

@[simp] lemma untyped_string (text : String) : (Value.string text).Untyped := nofun

@[simp] lemma untyped_list {items : List Value} :
    (Value.list items).Untyped ↔ ∀ item ∈ items, item.Untyped := by
  constructor
  · intro h item hi entries hw
    exact h entries (.item hi hw)
  · intro h entries hw
    cases hw with
    | item hi hw => exact h _ hi entries hw

@[simp] lemma untyped_map {entries : Entries Value} :
    (Value.map entries).Untyped ↔ ¬ NamesType entries ∧ ∀ entry ∈ entries, entry.2.Untyped := by
  constructor
  · intro h
    exact ⟨h entries .self, fun entry he inner hw => h inner (.entry he hw)⟩
  · intro h inner hw
    cases hw with
    | self => exact h.1
    | entry he hw => exact h.2 _ he inner hw

/-! ### Writing and reading -/

lemma itemsToJson_eq_map (items : List Value) : itemsToJson items = items.map toJson := by
  induction items with
  | nil => rfl
  | cons v vs ih => rw [itemsToJson, ih, List.map_cons]

lemma entriesToJson_eq_map (entries : Entries Value) :
    entriesToJson entries = entries.map fun entry => (entry.1, entry.2.toJson) := by
  induction entries with
  | nil => rfl
  | cons entry entries ih => rw [entriesToJson, ih, List.map_cons]

lemma get?_entriesToJson (entries : Entries Value) (key : String) :
    Entries.get? (entriesToJson entries) key = (Entries.get? entries key).map toJson := by
  rw [entriesToJson_eq_map, Entries.get?_map]

lemma ofJsonItems_itemsToJson {items : List Value}
    (h : ∀ item ∈ items, ofJson item.toJson = item) : ofJsonItems (itemsToJson items) = items := by
  induction items with
  | nil => rfl
  | cons v vs ih =>
    rw [itemsToJson, ofJsonItems, h v List.mem_cons_self,
      ih fun item hi => h item (List.mem_cons_of_mem _ hi)]

lemma ofJsonMembers_entriesToJson {entries : Entries Value}
    (h : ∀ entry ∈ entries, ofJson entry.2.toJson = entry.2) :
    ofJsonMembers (entriesToJson entries) = entries := by
  induction entries with
  | nil => rfl
  | cons entry entries ih =>
    rw [entriesToJson, ofJsonMembers, h entry List.mem_cons_self,
      ih fun other ho => h other (List.mem_cons_of_mem _ ho)]

/-- Plain data is what the form of its JSON says. -/
theorem ofJson_toJson {v : Value} (h : v.Plain) : ofJson v.toJson = v := by
  induction h with
  | null | boolean | string => rfl
  | integer n => rw [toJson, ofJson, Json.Number.toValue, Json.Number.toInt64?_int]
  | float hx =>
    rw [toJson, Json.ofDouble, if_pos hx]
    rfl
  | list _ ih => rw [toJson, ofJson, ofJsonItems_itemsToJson ih]
  | map _ ih => rw [toJson, ofJson, ofJsonMembers_entriesToJson ih]

/-! ### Maps that look like envelopes -/

/-- Of plain data, only a text is written as a text. -/
lemma eq_string_of_toJson {v : Value} (h : v.Plain) {text : String}
    (ht : v.toJson = .string text) : v = .string text := by
  rw [← ofJson_toJson h, ht]
  rfl

/-- A plain map is written as an envelope only if it names a type. -/
lemma namesType_of_member {entries : Entries Value} (h : ∀ entry ∈ entries, entry.2.Plain)
    {text : String} (ht : (Value.map entries).toJson.member? typeKey = some (.string text)) :
    NamesType entries := by
  rw [toJson, Json.member?, get?_entriesToJson, Option.map_eq_some_iff] at ht
  obtain ⟨v, hv, hjson⟩ := ht
  have hplain : v.Plain := h _ (Entries.mem_of_get? hv)
  exact ⟨text, by rw [hv, eq_string_of_toJson hplain hjson]⟩

theorem untyped_toJson {v : Value} (hp : v.Plain) (hu : v.Untyped) : v.toJson.Untyped := by
  induction hp with
  | null | boolean | integer | string => simp [toJson]
  | float hx => simp [toJson, Json.ofDouble, hx]
  | @list items _ ih =>
    rw [toJson, itemsToJson_eq_map, Json.untyped_array]
    intro json hjson
    obtain ⟨item, hi, rfl⟩ := List.mem_map.1 hjson
    exact ih item hi (untyped_list.1 hu item hi)
  | @map entries h ih =>
    rw [toJson, Json.untyped_object]
    obtain ⟨hnames, hentries⟩ := untyped_map.1 hu
    refine ⟨fun text ht => hnames (namesType_of_member h ht), ?_⟩
    rw [entriesToJson_eq_map]
    intro member hmember
    obtain ⟨entry, he, rfl⟩ := List.mem_map.1 hmember
    exact ih entry he (hentries entry he)

/-- A map that names a type is taken for an envelope, and some decoder has a handler for it. -/
lemma exists_ne_of_namesType {entries : Entries Value} (h : NamesType entries) :
    ∃ d : Decoder, d.value (Value.map entries).toJson ≠ .map entries := by
  obtain ⟨text, ht⟩ := h
  refine ⟨Decoder.empty.register text fun _ => .set [], ?_⟩
  have hmember : (Value.map entries).toJson.member? typeKey = some (.string text) := by
    rw [toJson, Json.member?, get?_entriesToJson, ht]
    rfl
  rw [Decoder.value_eq, Envelope.ofJson?_of_member hmember]
  dsimp only
  rw [Decoder.handler?_register, if_pos rfl]
  intro heq
  cases heq

/-- Where a map inside a value names a type, some decoder makes another value of the whole. -/
lemma exists_ne_of_within {inner : Entries Value} (h : NamesType inner) {v : Value}
    (hw : Within (.map inner) v) (hp : v.Plain) : ∃ d : Decoder, d.value v.toJson ≠ v := by
  -- outwards from the map: a list and a map that names no type keep the difference
  induction hw with
  | self => exact exists_ne_of_namesType h
  | @item item items hi _ ih =>
    obtain ⟨d, hd⟩ := ih (plain_list.1 hp item hi)
    refine ⟨d, fun heq => hd ?_⟩
    rw [toJson, itemsToJson_eq_map, Decoder.value_of_bare d rfl, Decoder.bare_array,
      List.map_map] at heq
    have hall : items.map (d.value ∘ toJson) = items.map id :=
      (Value.list.inj heq).trans items.map_id.symm
    exact List.map_inj_left.1 hall item hi
  | @entry entry entries he _ ih =>
    by_cases hself : NamesType entries
    · exact exists_ne_of_namesType hself
    have hentries := plain_map.1 hp
    have hbare : Envelope.ofJson? (Value.map entries).toJson = none :=
      Envelope.ofJson?_eq_none_iff.2 fun _ ht => hself (namesType_of_member hentries ht)
    obtain ⟨d, hd⟩ := ih (hentries entry he)
    refine ⟨d, fun heq => hd ?_⟩
    rw [Decoder.value_of_bare d hbare, toJson, entriesToJson_eq_map, Decoder.bare_object,
      List.map_map] at heq
    have hall := (Value.map.inj heq).trans entries.map_id.symm
    exact congrArg Prod.snd (List.map_inj_left.1 hall entry he)

/-- Every decoder gives plain data back from its JSON exactly if no map in it names a type. -/
theorem forall_value_toJson_iff {v : Value} (h : v.Plain) :
    (∀ d : Decoder, d.value v.toJson = v) ↔ v.Untyped := by
  constructor
  · intro hd entries hw hnames
    obtain ⟨d, hne⟩ := exists_ne_of_within hnames hw h
    exact hne (hd d)
  · intro hu d
    rw [Decoder.value_eq_ofJson d _ (untyped_toJson h hu), ofJson_toJson h]

/-- Integers and whole floats, empty collections, and keys of envelopes without the name of a type
in them. -/
def nestedData : Value :=
  .map [(typeKey, .integer 7), (valueKey, .string Tag.int32), ("empty", .list [.list [], .map []]),
    ("numbers", .list [.integer Int64.minValue, .float (Double.ofInt 2), .float (.zero true),
      .map [(typeKey, .null), ("name", .string Tag.list), ("signed", .boolean true)]])]

/-- A map that is taken for an envelope of an integer. -/
def envelopeLike : Value := .map [(typeKey, .string Tag.int32), (valueKey, .integer 7)]

theorem value_toJson_of_nestedData :
    nestedData.Plain ∧ nestedData.Untyped ∧ Decoder.standard.value nestedData.toJson = nestedData ∧
      envelopeLike.Plain ∧ Decoder.standard.value envelopeLike.toJson = .integer 7 ∧
      ¬ envelopeLike.Untyped := by
  have htwo : (Double.ofInt 2).isFinite = true := by decide
  have hzero : (Double.zero true).isFinite = true := by decide
  have hdata : nestedData.Plain := by simp [nestedData, htwo, hzero]
  have huntyped : nestedData.Untyped := by
    simp [nestedData, NamesType, Entries.get?, typeKey, valueKey]
  have hlike : envelopeLike.Plain := by simp [envelopeLike]
  have hseven : Decoder.standard.value envelopeLike.toJson = .integer 7 := rfl
  refine ⟨hdata, huntyped, (forall_value_toJson_iff hdata).2 huntyped Decoder.standard, hlike,
    hseven, fun hu => ?_⟩
  have hback := (forall_value_toJson_iff hlike).2 hu Decoder.standard
  rw [hseven] at hback
  cases hback

end Value

end GraphClient
