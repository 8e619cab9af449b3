import GraphClient.Proofs.Decoding
import GraphClient.Proofs.FirstOccurrences
import GraphClient.Proofs.ScalarTexts
import Mathlib.Data.List.Dedup

/-!
# Maps in results

A wire map lists keys and values in turn. It stands for the map with one entry for each text of a
key, which has the value of the last pair with that text. Texts are themselves as keys, so a wire
map with texts for keys stands for the same map as the plain object in which the last pair of a key
counts. Other keys go by their text. Scalars that differ have different texts if their numbers are
of one kind, but other keys may share a text although they differ.
-/

namespace GraphClient

open GraphSON

namespace Entries

variable {α : Type} {entries pairs : Entries α} {key : String} {value : α}

lemma get?_append (before after : Entries α) (key : String) :
    get? (before ++ after) key = (get? before key).or (get? after key) := by
  induction before with
  | nil => rfl
  | cons entry rest ih =>
    rw [List.cons_append, get?_cons, get?_cons, ih]
    split <;> rfl

/-- The last pair of a key counts. -/
theorem get?_ofList (pairs : List (String × α)) (key : String) :
    get? (ofList pairs) key = get? pairs.reverse key := by
  suffices ∀ entries : Entries α,
      get? (pairs.foldl (fun entries pair => insert entries pair.1 pair.2) entries) key =
        (get? pairs.reverse key).or (get? entries key) from
    (this []).trans (Option.or_none)
  induction pairs with
  | nil => exact fun _ => rfl
  | cons pair rest ih =>
    intro entries
    rw [List.foldl_cons, ih, get?_insert, List.reverse_cons, get?_append, Option.or_assoc,
      get?_cons]
    split <;> rfl

lemma get?_eq_none_iff : get? entries key = none ↔ key ∉ entries.map Prod.fst := by
  induction entries with
  | nil => simp [get?]
  | cons entry rest ih =>
    rw [get?_cons, List.map_cons, List.mem_cons, not_or, ← ih]
    split <;> simp_all

/-- Where no key is repeated, a key finds exactly the value of its own pair. -/
lemma get?_eq_some_iff (h : (entries.map Prod.fst).Nodup) :
    get? entries key = some value ↔ (key, value) ∈ entries := by
  refine ⟨mem_of_get?, fun hmem => ?_⟩
  induction entries with
  | nil => cases hmem
  | cons entry rest ih =>
    obtain ⟨hnew, hrest⟩ := List.nodup_cons.1 h
    rw [get?_cons]
    rcases List.mem_cons.1 hmem with rfl | hmem
    · rw [if_pos rfl]
    · have hne : key ≠ entry.1 := fun heq => hnew (heq ▸ List.mem_map_of_mem hmem)
      rw [if_neg hne, ih hrest hmem]

lemma Ascending.nodup_keys (h : entries.Ascending) : (entries.map Prod.fst).Nodup :=
  List.pairwise_map.2 (h.imp String.ne_of_lt)

/-- Entries in ascending order are determined by what their keys find. -/
theorem Ascending.ext {a b : Entries α} (ha : a.Ascending) (hb : b.Ascending)
    (h : ∀ key, get? a key = get? b key) : a = b := by
  have hmem (entry : String × α) : entry ∈ a ↔ entry ∈ b := by
    rw [← get?_eq_some_iff ha.nodup_keys, ← get?_eq_some_iff hb.nodup_keys, h]
  have hperm : a.Perm b := (List.perm_ext_iff_of_nodup (List.Nodup.of_map _ ha.nodup_keys)
    (List.Nodup.of_map _ hb.nodup_keys)).2 hmem
  exact hperm.eq_of_pairwise (fun x y _ _ hxy hyx => absurd hyx (String.lt_asymm hxy)) ha hb

lemma mem_keys_ofList : key ∈ (ofList pairs).map Prod.fst ↔ key ∈ pairs.map Prod.fst := by
  have h : get? (ofList pairs) key = none ↔ get? pairs.reverse key = none := by
    rw [get?_ofList]
  rw [get?_eq_none_iff, get?_eq_none_iff, List.map_reverse, List.mem_reverse] at h
  exact not_iff_not.1 h

/-- There are as many entries as different keys. -/
theorem length_ofList (pairs : List (String × α)) :
    (ofList pairs).length = (pairs.map Prod.fst).dedup.length := by
  have hperm : ((ofList pairs).map Prod.fst).Perm (pairs.map Prod.fst).dedup :=
    (List.perm_ext_iff_of_nodup (ascending_ofList pairs).nodup_keys (List.nodup_dedup _)).2
      fun key => mem_keys_ofList.trans List.mem_dedup.symm
  rw [← hperm.length_eq, List.length_map]

/-- If no key is repeated, the entries are the pairs, in another order. -/
theorem perm_ofList {pairs : List (String × α)} (h : (pairs.map Prod.fst).Nodup) :
    (ofList pairs).Perm pairs := by
  have hr : (pairs.reverse.map Prod.fst).Nodup := by
    rw [List.map_reverse]
    exact List.nodup_reverse.2 h
  have hasc := (ascending_ofList pairs).nodup_keys
  refine (List.perm_ext_iff_of_nodup (List.Nodup.of_map _ hasc) (List.Nodup.of_map _ h)).2
    fun entry => ?_
  rw [← get?_eq_some_iff hasc, get?_ofList, get?_eq_some_iff hr, List.mem_reverse]

end Entries

namespace GraphSON

namespace Decoder

variable {d : Decoder} {json : Json} {last : Option Json} {pairs : List (Json × Json)}

/-- The pairs, with null as the value of a last key that has none. -/
def completed {α : Type} (pairs : List (α × Json)) (last : Option α) : List (α × Json) :=
  pairs ++ last.toList.map fun key => (key, Json.null)

/-- A key by the text that it goes by, and the value of a pair. -/
def entryOf (d : Decoder) (pair : Json × Json) : String × Value :=
  (Handler.keyText (d.value pair.1), d.value pair.2)

lemma value_of_map (hd : d.handler? Tag.map = some Handler.map)
    (hj : Envelope.ofJson? json = some ⟨Tag.map, .array (alternating pairs last)⟩) :
    d.value json = .map (Entries.ofList ((completed pairs last).map d.entryOf)) := by
  have hcontent : (d.read (.array (alternating pairs last))).content =
      .array (d.readItems (alternating pairs last)) := rfl
  rw [value_eq, hj]
  dsimp only
  rw [hd, Option.getD_some, Handler.map, hcontent]
  dsimp only
  rw [pairs_readItems, completed, List.map_append, List.map_append, List.map_map, List.map_map,
    List.map_map]
  rfl

/-- A wire map whose keys are texts, with repetitions and perhaps a last key without a value, stands
for the same map as the plain object in which the last pair of each key counts. The object must not
be taken for an envelope. -/
theorem value_of_map_eq_object (texts : List (String × Json)) (lastText : Option String)
    {members : Entries Json}
    (hj : Envelope.ofJson? json = some ⟨Tag.map, .array (alternating
      (texts.map fun pair => (.string pair.1, pair.2)) (lastText.map .string))⟩)
    (hm : members.Ascending)
    (hlast : ∀ key, Entries.get? members key =
      Entries.get? (completed texts lastText).reverse key)
    (htype : ∀ tag, Entries.get? members typeKey ≠ some (.string tag)) :
    standard.value json = standard.value (.object members) ∧
      standard.value (.object members) =
        .map (members.map fun member => (member.1, standard.value member.2)) := by
  have hbare : Envelope.ofJson? (.object members) = none := Envelope.ofJson?_eq_none_iff.2 htype
  have hobject : standard.value (.object members) =
      .map (members.map fun member => (member.1, standard.value member.2)) := by
    rw [value_of_bare standard hbare, bare_object]
  refine ⟨?_, hobject⟩
  have hpairs : (completed (texts.map fun pair => (Json.string pair.1, pair.2))
        (lastText.map Json.string)).map standard.entryOf =
      (completed texts lastText).map fun pair => (pair.1, standard.value pair.2) := by
    rw [completed, completed, List.map_append, List.map_append, List.map_map]
    cases lastText <;> rfl
  rw [hobject, value_of_map rfl hj, hpairs]
  refine congrArg Value.map (Entries.Ascending.ext (Entries.ascending_ofList _)
    (List.pairwise_map.2 hm) fun key => ?_)
  rw [Entries.get?_ofList, ← List.map_reverse, Entries.get?_map, Entries.get?_map, hlast]

/-- A key three times, a key twice, and the key of types with a value that is no text. -/
def repeatedKeys : List (String × Json) :=
  [("b", .number (.int 1)), (typeKey, .array []), ("b", Envelope.toJson ⟨Tag.int64, .string "2"⟩),
    ("a", .bool true), ("b", .string "x")]

/-- The object with the last pair of each key, where the key `a` comes last without a value. -/
def lastOfKeys : Entries Json := [(typeKey, .array []), ("a", .null), ("b", .string "x")]

theorem value_of_repeatedKeys :
    standard.value (Envelope.toJson ⟨Tag.map, .array (alternating
        (repeatedKeys.map fun pair => (.string pair.1, pair.2)) (some (.string "a")))⟩) =
      standard.value (.object lastOfKeys) ∧
    standard.value (.object lastOfKeys) =
      .map [(typeKey, .list []), ("a", .null), ("b", .string "x")] := by
  have hlast : lastOfKeys = Entries.ofList (completed repeatedKeys (some "a")) := rfl
  have htype : Entries.get? lastOfKeys typeKey = some (.array []) := rfl
  obtain ⟨hvalue, hmap⟩ := value_of_map_eq_object repeatedKeys (some "a")
    (Envelope.ofJson?_toJson _) (hlast ▸ Entries.ascending_ofList _)
    (fun key => hlast ▸ Entries.get?_ofList _ key) (htype ▸ fun _ => nofun)
  exact ⟨hvalue, hmap.trans rfl⟩

/-! ### Keys that are no texts -/

lemma keyText_of_isScalar {floats : Bool} {v : Value} (h : Value.IsScalar floats v) :
    Handler.keyText v = v.text := by
  cases h <;> rfl

/-- Keys that are all texts go by different texts if no two of them are equal, and so do keys that
are all scalars with numbers of one kind. -/
lemma nodup_keyText {keys : List Value}
    (hkind : (∀ key ∈ keys, ∃ text, key = .string text) ∨
      ∃ floats, ∀ key ∈ keys, Value.IsScalar floats key)
    (h : Value.AllDiffer keys) : (keys.map Handler.keyText).Nodup := by
  refine List.pairwise_map.2 (h.imp_of_mem fun {a b} ha hb hdiffer heq => ?_)
  have hab : a = b ∧ a.same a = true := by
    rcases hkind with htext | ⟨floats, hscalar⟩
    · obtain ⟨text, rfl⟩ := htext a ha
      obtain ⟨other, rfl⟩ := htext b hb
      exact ⟨congrArg Value.string heq, by simp [Value.same]⟩
    · have hsa := hscalar a ha
      have hsb := hscalar b hb
      rw [keyText_of_isScalar hsa, keyText_of_isScalar hsb] at heq
      exact ⟨Value.eq_of_text hsa hsb heq, hsa.same_self⟩
  obtain ⟨rfl, hself⟩ := hab
  rw [hself] at hdiffer
  cases hdiffer.1

def keysOf (d : Decoder) (pairs : List (Json × Json)) : List Value :=
  pairs.map fun pair => d.value pair.1

lemma map_fst_entryOf (d : Decoder) (pairs : List (Json × Json)) :
    (pairs.map d.entryOf).map Prod.fst = (d.keysOf pairs).map Handler.keyText := by
  rw [keysOf, List.map_map, List.map_map]
  rfl

/-- A wire map has as many entries as there are different texts of its keys, each with the value of
the last pair with its text. There is one entry for each pair exactly if no two keys have the same
text. Keys that differ do so in their texts if all of them are texts, or all are nulls, booleans,
timestamps and either integers or floats that are numbers. -/
theorem entries_of_map {json : Json} (pairs : List (Json × Json))
    (hj : Envelope.ofJson? json = some ⟨Tag.map, .array (alternating pairs none)⟩) :
    ∃ entries, standard.value json = .map entries ∧
      (∀ text, Entries.get? entries text =
        Entries.get? (pairs.map standard.entryOf).reverse text) ∧
      entries.length = ((standard.keysOf pairs).map Handler.keyText).dedup.length ∧
      (entries.length = pairs.length ↔ ((standard.keysOf pairs).map Handler.keyText).Nodup) ∧
      (entries.length = pairs.length → entries.Perm (pairs.map standard.entryOf)) ∧
      (Value.AllDiffer (standard.keysOf pairs) →
        ((∀ key ∈ standard.keysOf pairs, ∃ text, key = .string text) ∨
          ∃ floats, ∀ key ∈ standard.keysOf pairs, Value.IsScalar floats key) →
        entries.length = pairs.length) := by
  have hvalue : standard.value json = .map (Entries.ofList (pairs.map standard.entryOf)) := by
    have h := value_of_map (d := standard) rfl hj
    rwa [completed, Option.toList_none, List.map_nil, List.append_nil] at h
  have hlength : (Entries.ofList (pairs.map standard.entryOf)).length =
      ((standard.keysOf pairs).map Handler.keyText).dedup.length := by
    rw [Entries.length_ofList, map_fst_entryOf]
  have hperm (h : ((standard.keysOf pairs).map Handler.keyText).Nodup) :
      (Entries.ofList (pairs.map standard.entryOf)).Perm (pairs.map standard.entryOf) :=
    Entries.perm_ofList ((map_fst_entryOf standard pairs).symm ▸ h)
  have hiff : (Entries.ofList (pairs.map standard.entryOf)).length = pairs.length ↔
      ((standard.keysOf pairs).map Handler.keyText).Nodup := by
    constructor
    · intro h
      have hall : ((standard.keysOf pairs).map Handler.keyText).dedup =
          (standard.keysOf pairs).map Handler.keyText :=
        (List.dedup_sublist _).eq_of_length (by rw [← hlength, h]; simp [keysOf])
      exact List.dedup_eq_self.1 hall
    · intro h
      rw [(hperm h).length_eq, List.length_map]
  exact ⟨_, hvalue, Entries.get?_ofList _, hlength, hiff, fun h => hperm (hiff.1 h),
    fun hdiffer hkind => hiff.2 (nodup_keyText hkind hdiffer)⟩

/-- How often each age was found: integers of two types and one that is written as a text. -/
def countedAges : List (Json × Json) :=
  [(Envelope.toJson ⟨Tag.int32, .number (.int 29)⟩, .number (.int 2)),
    (Envelope.toJson ⟨Tag.int64, .string "27"⟩, .number (.int 1)), (.number (.int 32), .null)]

theorem entries_of_countedAges :
    ∃ entries, standard.value (Envelope.toJson ⟨Tag.map, .array (alternating countedAges none)⟩) =
        .map entries ∧
      entries.Perm [("29", .integer 2), ("27", .integer 1), ("32", .null)] ∧
      Entries.get? entries "27" = some (.integer 1) := by
  obtain ⟨entries, hvalue, hget, -, -, hperm, hkind⟩ :=
    entries_of_map countedAges (Envelope.ofJson?_toJson _)
  have hkeys : standard.keysOf countedAges = [.integer 29, .integer 27, .integer 32] := rfl
  have hpairs : countedAges.map standard.entryOf =
      [("29", .integer 2), ("27", .integer 1), ("32", .null)] := rfl
  have hdiffer : Value.AllDiffer (standard.keysOf countedAges) := by
    simp [hkeys, Value.AllDiffer, Value.same]
  have hscalar : ∀ key ∈ standard.keysOf countedAges, Value.IsScalar false key := by
    simp [hkeys, Value.IsScalar.integer]
  refine ⟨entries, hvalue, hpairs ▸ hperm (hkind hdiffer (.inr ⟨false, hscalar⟩)), ?_⟩
  rw [hget, hpairs]
  rfl

/-- A number and the text that writes it. -/
def mixedKeys : List (Json × Json) :=
  [(.number (.int 1), .string "a"), (.string "1", .string "b")]

/-- Keys of different kinds may share an entry although they differ: two pairs, one entry. -/
theorem entry_lost_of_mixedKeys :
    Value.AllDiffer (standard.keysOf mixedKeys) ∧ mixedKeys.length = 2 ∧
      standard.value (Envelope.toJson ⟨Tag.map, .array (alternating mixedKeys none)⟩) =
        .map [("1", .string "b")] := by
  have hkeys : standard.keysOf mixedKeys = [.integer 1, .string "1"] := rfl
  exact ⟨by simp [hkeys, Value.AllDiffer, Value.same], rfl, rfl⟩

end Decoder

end GraphSON

end GraphClient
