import GraphClient.Proofs.DecimalTexts
import GraphClient.Proofs.PlainValues

/-!
# Counted items in results

A wire list of items and counts in turn stands for the list in which each item is repeated as often
as its count says, and not at all if that is negative, whichever way the count is written. So a
response brings as many values as its positive counts add up to.
-/

namespace GraphClient.GraphSON

/-- The ways in which an integer is written on the wire: as a number, alone or in an envelope of an
integer type, or as a decimal text in such an envelope, blanks around it not counting. -/
inductive SpellsInteger (n : Int64) : Json → Prop
  | bare : SpellsInteger n (.number (.int n.toInt))
  | number {tag : String} {json : Json} (htag : tag = Tag.int32 ∨ tag = Tag.int64)
      (hj : Envelope.ofJson? json = some ⟨tag, .number (.int n.toInt)⟩) : SpellsInteger n json
  | text {tag text : String} {json : Json} (htag : tag = Tag.int32 ∨ tag = Tag.int64)
      (hj : Envelope.ofJson? json = some ⟨tag, .string text⟩)
      (ht : Decimal.Writes n.toInt (Blank.trim text.toList)) : SpellsInteger n json

/-- An item with its count, which is written in one of the ways. -/
structure CountedItem where
  item : Json
  bulk : Int64
  count : Json
  spells : SpellsInteger bulk count

namespace CountedItem

def times (c : CountedItem) : Nat := (max c.bulk.toInt 0).toNat

end CountedItem

namespace Decoder

lemma standard_handler?_integer {tag : String} (h : tag = Tag.int32 ∨ tag = Tag.int64) :
    standard.handler? tag = some Handler.integer := by
  rcases h with rfl | rfl <;> rfl

lemma toValue_int (n : Int64) : (Json.Number.int n.toInt).toValue = .integer n := by
  rw [Json.Number.toValue, Json.Number.toInt64?_int]

lemma value_of_integerType {tag : String} {json payload : Json}
    (htag : tag = Tag.int32 ∨ tag = Tag.int64) (hj : Envelope.ofJson? json = some ⟨tag, payload⟩) :
    standard.value json = Handler.integer (standard.read payload) := by
  rw [value_eq, hj]
  dsimp only
  rw [standard_handler?_integer htag, Option.getD_some]

/-- Whichever way an integer is written, it is decoded to itself. -/
theorem value_of_spellsInteger {n : Int64} {json : Json} (h : SpellsInteger n json) :
    standard.value json = .integer n := by
  cases h with
  | bare => exact toValue_int n
  | number htag hj => exact (value_of_integerType htag hj).trans (toValue_int n)
  | @text tag text json htag hj ht =>
    have hread : Handler.integerOfText text = n := by
      rw [Handler.integerOfText, Decimal.int64?_of_writes ht, Option.getD_some]
    rw [value_of_integerType htag hj]
    exact congrArg Value.integer hread

/-- A wire list of items and counts has each item as often as its count says. -/
lemma value_of_bulkSet {d : Decoder} (hd : d.handler? Tag.bulkSet = some Handler.bulkSet)
    {json : Json} {pairs : List (Json × Json)} {last : Option Json}
    (hj : Envelope.ofJson? json = some ⟨Tag.bulkSet, .array (alternating pairs last)⟩) :
    d.value json = .list ((pairs.flatMap fun pair =>
      List.replicate (Handler.bulk (some (d.read pair.2))) (d.value pair.1)) ++
        last.toList.map d.value) := by
  have hcontent : (d.read (.array (alternating pairs last))).content =
      .array (d.readItems (alternating pairs last)) := rfl
  rw [value_eq, hj]
  dsimp only
  rw [hd, Option.getD_some, Handler.bulkSet, hcontent]
  dsimp only
  rw [pairs_readItems, List.flatMap_append, List.flatMap_map]
  cases last <;> rfl

/-- Items with their counts, and perhaps a last item without one, stand for the list with each item
repeated as often as its count says, and the last item once. So many values are delivered as the
counts that are not negative add up to, and one more for a last item. -/
theorem value_of_bulkSet_eq_list (counted : List CountedItem) (last : Option Json)
    {bulkSet list : Json}
    (hb : Envelope.ofJson? bulkSet = some ⟨Tag.bulkSet,
      .array (alternating (counted.map fun c => (c.item, c.count)) last)⟩)
    (hl : Envelope.ofJson? list = some ⟨Tag.list,
      .array ((counted.flatMap fun c => List.replicate c.times c.item) ++ last.toList)⟩) :
    standard.value bulkSet = standard.value list ∧
      standard.results (some bulkSet) = standard.results (some list) ∧
      (standard.results (some bulkSet)).length =
        (counted.map CountedItem.times).sum + last.toList.length := by
  have hbulk (c : CountedItem) : Handler.bulk (some (standard.read c.count)) = c.times := by
    have hv : (standard.read c.count).value = .integer c.bulk := value_of_spellsInteger c.spells
    rw [Handler.bulk, Option.bind_some, hv]
    change c.bulk.toInt.toNat = (max c.bulk.toInt 0).toNat
    omega
  have hvalue : standard.value bulkSet = standard.value list := by
    rw [value_of_bulkSet rfl hb, value_of_list rfl hl, List.map_append, List.map_flatMap,
      List.flatMap_map]
    simp only [hbulk, List.map_replicate]
  have hresults : standard.results (some bulkSet) = standard.results (some list) := by
    have hdecode : standard.decode (some bulkSet) = standard.decode (some list) := hvalue
    rw [results, results, hdecode]
  refine ⟨hvalue, hresults, ?_⟩
  rw [hresults, results_of_list rfl hl, List.length_map, List.length_append, List.length_flatMap]
  simp only [List.length_replicate]

/-- A count alone, a negative one, none, and one with a sign, a zero and blanks. -/
def countedLetters : List CountedItem :=
  [⟨.string "a", 2, .number (.int 2), .bare⟩,
    ⟨.string "b", -3, Envelope.toJson ⟨Tag.int64, .string (toString (-3 : Int64).toInt)⟩,
      .text (.inr rfl) (Envelope.ofJson?_toJson _) (Decimal.writes_toString _)⟩,
    ⟨.string "c", 0, Envelope.toJson ⟨Tag.int32, .number (.int 0)⟩,
      .number (.inl rfl) (Envelope.ofJson?_toJson _)⟩,
    ⟨.null, 1, Envelope.toJson ⟨Tag.int32, .string "\t+01 "⟩,
      .text (.inl rfl) (Envelope.ofJson?_toJson _)
        (@Decimal.Writes.plus ['0', '1'] nofun (List.all_eq_true.1 rfl))⟩]

theorem value_of_countedLetters :
    standard.value (Envelope.toJson ⟨Tag.bulkSet, .array (alternating
        (countedLetters.map fun c => (c.item, c.count)) (some (.string "e")))⟩) =
      .list [.string "a", .string "a", .null, .string "e"] ∧
    (standard.results (some (Envelope.toJson ⟨Tag.bulkSet, .array (alternating
        (countedLetters.map fun c => (c.item, c.count)) (some (.string "e")))⟩))).length = 4 := by
  obtain ⟨hvalue, -, hlength⟩ := value_of_bulkSet_eq_list countedLetters (some (.string "e"))
    (Envelope.ofJson?_toJson _) (Envelope.ofJson?_toJson _)
  exact ⟨hvalue.trans rfl, hlength.trans rfl⟩

end Decoder

end GraphClient.GraphSON
