import GraphClient.GraphSON.Decoder
import Mathlib.Tactic.Common

/-!
# What a decoder makes of a document

An envelope stands for what the handler of its type makes of the payload, and any other document for
its own form. The items of a wire list are decoded one by one, so that the results of such a list
are its decoded items, each of them as it is. Other lists hold two kinds of items in turn, which are
decoded pair by pair.
-/

namespace GraphClient.GraphSON

namespace Envelope

lemma ofJson?_of_member {json : Json} {tag : String}
    (h : json.member? typeKey = some (.string tag)) :
    ofJson? json = some ⟨tag, (json.member? valueKey).getD .null⟩ := by
  rw [ofJson?, h]

/-- The type of an envelope is the text in one of its members. -/
lemma member?_of_ofJson? {json : Json} {e : Envelope} (h : ofJson? json = some e) :
    json.member? typeKey = some (.string e.tag) := by
  rw [ofJson?] at h
  split at h
  · rename_i tag ht
    cases h
    exact ht
  · cases h

lemma ofJson?_eq_none_iff {json : Json} :
    ofJson? json = none ↔ ∀ tag, json.member? typeKey ≠ some (.string tag) := by
  constructor
  · intro h tag ht
    rw [ofJson?_of_member ht] at h
    cases h
  · intro h
    cases he : ofJson? json with
    | none => rfl
    | some e => exact absurd (member?_of_ofJson? he) (h e.tag)

end Envelope

lemma untag_of_bare {json : Json} (h : Envelope.ofJson? json = none) : untag json = json := by
  rw [untag, h]
  rfl

lemma untag_of_envelope {json : Json} {e : Envelope} (h : Envelope.ofJson? json = some e) :
    untag json = e.payload := by
  rw [untag, h]
  rfl

namespace Decoder

variable (d : Decoder)

lemma handler?_register (tag other : String) (handler : Handler) :
    (d.register tag handler).handler? other =
      if other = tag then some handler else d.handler? other :=
  Entries.get?_insert d.handlers tag other handler

lemma readItems_eq_map (items : List Json) : d.readItems items = items.map d.read := by
  induction items with
  | nil => rfl
  | cons item items ih =>
    rw [readItems, ih]
    rfl

lemma readMembers_eq_map (members : List (String × Json)) :
    d.readMembers members = members.map fun member => (member.1, d.read member.2) := by
  induction members with
  | nil => rfl
  | cons member members ih =>
    rw [readMembers, ih]
    rfl

lemma get?_readMembers (members : Entries Json) (name : String) :
    Entries.get? (d.readMembers members) name = (Entries.get? members name).map d.read := by
  rw [readMembers_eq_map]
  exact Entries.get?_map d.read members name

lemma member?_read (json : Json) (name : String) :
    (d.read json).content.member? name = (json.member? name).map d.read := by
  cases json with
  | object members => exact get?_readMembers d members name
  | _ => rfl

/-- Reading keeps envelopes: the type, and the payload read by itself. -/
lemma tagged?_read (json : Json) : Part.tagged? (d.read json).content =
    (Envelope.ofJson? json).map fun e => (e.tag, d.read e.payload) := by
  rw [Part.tagged?, Envelope.ofJson?, member?_read, member?_read]
  cases json.member? typeKey with
  | none => rfl
  | some tag =>
    cases tag with
    | string tag => cases json.member? valueKey <;> rfl
    | _ => rfl

lemma untag_read (json : Json) : (d.read json).untag = d.read (untag json) := by
  rw [Part.untag, tagged?_read, untag]
  cases Envelope.ofJson? json <;> rfl

/-- A part has the value of its content. -/
lemma value_eq_valueOf (json : Json) : d.value json = d.valueOf (d.read json).content := by
  cases json <;> rfl

/-- A document stands for what the handler of its type makes of its payload; without a handler it
stands for the form of the payload, and without a type for its own form. -/
theorem value_eq (json : Json) : d.value json =
    match Envelope.ofJson? json with
    | some e => ((d.handler? e.tag).getD Handler.plain) (d.read e.payload)
    | none => (d.read json).bare := by
  rw [value_eq_valueOf, valueOf, tagged?_read]
  cases Envelope.ofJson? json with
  | none => rfl
  | some e =>
    dsimp only [Option.map_some]
    cases d.handler? e.tag <;> rfl

/-- A document without a type stands for its own form. -/
lemma value_of_bare {json : Json} (h : Envelope.ofJson? json = none) :
    d.value json = (d.read json).bare := by
  rw [value_eq, h]

lemma bare_array (items : List Json) :
    (d.read (.array items)).bare = .list (items.map d.value) := by
  rw [read, readItems_eq_map]
  change Value.list ((items.map d.read).map (·.value)) = _
  rw [List.map_map]
  rfl

lemma bare_object (members : List (String × Json)) :
    (d.read (.object members)).bare =
      .map (members.map fun member => (member.1, d.value member.2)) := by
  rw [read, readMembers_eq_map]
  change Value.map (List.map _ (List.map _ members)) = _
  rw [List.map_map]
  rfl

variable {d} {json : Json} {items : List Json}

/-- A wire list stands for the list of its decoded items. -/
lemma value_of_list (hd : d.handler? Tag.list = some Handler.list)
    (hj : Envelope.ofJson? json = some ⟨Tag.list, .array items⟩) :
    d.value json = .list (items.map d.value) := by
  rw [value_eq, hj]
  dsimp only
  rw [hd]
  exact bare_array d items

lemma results_none : d.results none = [] := rfl

/-- The results of a wire list are its decoded items, whatever these are. -/
lemma results_of_list (hd : d.handler? Tag.list = some Handler.list)
    (hj : Envelope.ofJson? json = some ⟨Tag.list, .array items⟩) :
    d.results (some json) = items.map d.value := by
  have hv : d.decode (some json) = .list (items.map d.value) := value_of_list hd hj
  rw [results, hv]

end Decoder

/-! ### Items in turn -/

/-- Pairs as one list, and perhaps the first part of a last pair that has no second. -/
def alternating {α : Type} (pairs : List (α × α)) (last : Option α) : List α :=
  pairs.flatMap (fun pair => [pair.1, pair.2]) ++ last.toList

lemma map_alternating {α β : Type} (f : α → β) (pairs : List (α × α)) (last : Option α) :
    (alternating pairs last).map f =
      alternating (pairs.map fun pair => (f pair.1, f pair.2)) (last.map f) := by
  rw [alternating, List.map_append, List.map_flatMap, alternating, List.flatMap_map]
  cases last <;> rfl

/-- Taking items two by two undoes it. -/
lemma Handler.pairs_alternating (ps : List (Part × Part)) (last : Option Part) :
    pairs (alternating ps last) =
      ps.map (fun p => (p.1, some p.2)) ++ last.toList.map fun part => (part, none) := by
  induction ps with
  | nil => cases last <;> rfl
  | cons p ps ih =>
    rw [List.map_cons, List.cons_append, ← ih]
    rfl

namespace Decoder

/-- The pairs in what a wire list holds in turn, each part read by itself. -/
lemma pairs_readItems (d : Decoder) (pairs : List (Json × Json)) (last : Option Json) :
    Handler.pairs (d.readItems (alternating pairs last)) =
      pairs.map (fun pair => (d.read pair.1, some (d.read pair.2))) ++
        last.toList.map fun json => (d.read json, none) := by
  rw [readItems_eq_map, map_alternating, Handler.pairs_alternating, List.map_map]
  cases last <;> rfl

end Decoder

end GraphClient.GraphSON
