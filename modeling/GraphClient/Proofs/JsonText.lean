import GraphClient.Json.Reader
import GraphClient.Json.Writer
import Mathlib.Tactic.Common

/-!
# Written documents are read back

The reader takes from the compact text of a document just that text and finds the document in it.
No character of a string can end it or take part in an escape of another character, so that a
string never reaches into what stands around it. Documents with numbers are left out.
-/

namespace GraphClient

namespace Entries

variable {α : Type}

lemma insert_of_forall_lt {entries : Entries α} {key : String} (value : α)
    (h : ∀ entry ∈ entries, entry.1 < key) :
    insert entries key value = entries ++ [(key, value)] := by
  induction entries with
  | nil => rfl
  | cons entry entries ih =>
    have hlt : entry.1 < key := h entry List.mem_cons_self
    rw [insert, if_neg (String.lt_asymm hlt), if_neg fun h => String.lt_irrefl _ (h ▸ hlt),
      ih fun other hother => h other (List.mem_cons_of_mem _ hother), List.cons_append]

lemma foldl_insert_of_ascending (before : Entries α) {pairs : List (String × α)}
    (h : Ascending (before ++ pairs)) :
    pairs.foldl (fun entries pair => insert entries pair.1 pair.2) before = before ++ pairs := by
  induction pairs generalizing before with
  | nil => rw [List.foldl_nil, List.append_nil]
  | cons pair pairs ih =>
    have hlt (entry) (hentry : entry ∈ before) : entry.1 < pair.1 :=
      (List.pairwise_append.1 h).2.2 entry hentry pair List.mem_cons_self
    rw [List.foldl_cons, insert_of_forall_lt pair.2 hlt, ih _ (by rwa [List.append_assoc]),
      List.append_assoc]
    rfl

/-- Pairs in ascending order are entries as they are. -/
lemma ofList_of_ascending {pairs : List (String × α)} (h : Ascending pairs) :
    ofList pairs = pairs :=
  foldl_insert_of_ascending [] h

end Entries

namespace Json

/-- A document without numbers, whose members are in order, with at most `depth` arrays and objects
inside one another. -/
inductive Plain : (depth : Nat) → Json → Prop
  | null {depth : Nat} : Plain depth .null
  | bool {depth : Nat} (b : Bool) : Plain depth (.bool b)
  | string {depth : Nat} (text : String) : Plain depth (.string text)
  | array {depth : Nat} {items : List Json} (hitems : ∀ item ∈ items, Plain depth item) :
      Plain (depth + 1) (.array items)
  | object {depth : Nat} {members : List (String × Json)} (horder : Entries.Ascending members)
      (hmembers : ∀ m ∈ members, Plain depth m.2) : Plain (depth + 1) (.object members)

namespace Grammar

lemma hexDigit?_hexDigit (n : Nat) : hexDigit? (some (hexDigit n)) = some (n % 16) := by
  have h : ∀ d < 16, hexDigit? (some (Nat.digitChar d)) = some d := by decide
  exact h (n % 16) (Nat.mod_lt n (by omega))

/-- A control is the code unit of its escape. -/
lemma unit?_of_control {n : Nat} (h : n < 0x20) :
    unit? (some '0') (some '0') (some (hexDigit (n / 16))) (some (hexDigit n)) = some n := by
  rw [unit?, hexDigit?_hexDigit, hexDigit?_hexDigit]
  change some (((0 * 16 + 0) * 16 + n / 16 % 16) * 16 + n % 16) = some n
  congr 1
  omega

/-- One piece of a string that stands for a character, whatever comes after it. -/
structure Spells (p : StringPiece) (c : Char) : Prop where
  read : ∀ input, pieces? ((escape c).map some ++ input) =
    (pieces? input).map fun (ps, rest) => (p :: ps, rest)
  joined : ∀ ps, join? (p :: ps) = (join? ps).map (c :: ·)

lemma spells_char {c : Char} (hread : ∀ input, pieces? ((escape c).map some ++ input) =
    (pieces? input).map fun (ps, rest) => (.char c :: ps, rest)) : Spells (.char c) c :=
  ⟨hread, fun _ => by rw [join?]⟩

lemma spells_short {c letter : Char} (hc : escape c = ['\\', letter]) (hu : letter ≠ 'u')
    (hs : shortEscape? letter = some c) : Spells (.char c) c := by
  refine spells_char fun input => ?_
  rw [hc]
  change pieces? (some '\\' :: some letter :: input) = _
  rw [pieces?]
  · change (shortEscape? letter).bind _ = _
    rw [hs]
    cases pieces? input <;> rfl
  · intro _ _ _ _ _ h _
    exact hu (Option.some.inj h)

lemma spells_control {c : Char} (hc : escape c =
      ['\\', 'u', '0', '0', hexDigit (c.toNat / 16), hexDigit c.toNat]) (hlt : c.toNat < 0x20) :
    Spells (.unit c.toNat) c := by
  refine ⟨fun input => ?_, fun ps => ?_⟩
  · rw [hc]
    change pieces? (some '\\' :: some 'u' :: some '0' :: some '0' ::
      some (hexDigit (c.toNat / 16)) :: some (hexDigit c.toNat) :: input) = _
    rw [pieces?, unit?_of_control hlt]
    cases pieces? input <;> rfl
  · have hhigh : isHigh c.toNat = false := by
      rw [isHigh, Bool.and_eq_false_iff]
      exact .inl (decide_eq_false (by omega))
    have hlow : isLow c.toNat = false := by
      rw [isLow, Bool.and_eq_false_iff]
      exact .inl (decide_eq_false (by omega))
    rw [join?.eq_def (.unit c.toNat :: ps)]
    dsimp only
    rw [hhigh, hlow, Char.ofNat_toNat]
    rfl

lemma spells_self {c : Char} (hc : escape c = [c]) (hquote : c ≠ '"') (hslash : c ≠ '\\')
    (hge : ¬c.toNat < 0x20) : Spells (.char c) c := by
  refine spells_char fun input => ?_
  rw [hc]
  change pieces? (some c :: input) = _
  rw [pieces?, if_neg (not_or.2 ⟨hslash, hge⟩)]
  · exact hquote
  · exact fun _ _ _ _ _ _ h => hslash h
  · exact fun _ _ _ h => hslash h

/-- The characters with an escape of one letter, with that letter. -/
def shortEscapes : List (Char × Char) :=
  [('"', '"'), ('\\', '\\'), ('\x08', 'b'), ('\x0c', 'f'), ('\n', 'n'), ('\r', 'r'), ('\t', 't')]

lemma escape_of_mem : ∀ e ∈ shortEscapes,
    escape e.1 = ['\\', e.2] ∧ e.2 ≠ 'u' ∧ shortEscape? e.2 = some e.1 := by
  decide

/-- Every character is read as one piece that stands for it. -/
lemma exists_spells (c : Char) : ∃ p, Spells p c := by
  by_cases hshort : ∃ letter, (c, letter) ∈ shortEscapes
  · obtain ⟨letter, hmem⟩ := hshort
    obtain ⟨hc, hu, hs⟩ := escape_of_mem _ hmem
    exact ⟨_, spells_short hc hu hs⟩
  · simp only [shortEscapes, List.mem_cons, Prod.mk.injEq, List.not_mem_nil, or_false, exists_or,
      exists_eq_right, not_or] at hshort
    by_cases hlt : c.toNat < 0x20
    · exact ⟨_, spells_control (by simp [escape, hshort, hlt]) hlt⟩
    · exact ⟨_, spells_self (by simp [escape, hshort, hlt]) hshort.1 hshort.2.1 hlt⟩

lemma pieces?_flatMap_escape (text : List Char) (rest : List Symbol) :
    ∃ ps, pieces? ((text.flatMap escape).map some ++ some '"' :: rest) = some (ps, rest) ∧
      join? ps = some text := by
  induction text with
  | nil => exact ⟨[], by rw [List.flatMap_nil, List.map_nil, List.nil_append, pieces?], rfl⟩
  | cons c text ih =>
    obtain ⟨ps, hps, hjoin⟩ := ih
    obtain ⟨p, hp⟩ := exists_spells c
    refine ⟨p :: ps, ?_, ?_⟩
    · rw [List.flatMap_cons, List.map_append, List.append_assoc, hp.read, hps]
      rfl
    · rw [hp.joined, hjoin]
      rfl

/-- A string ends with its own quote and is the text that was written. -/
lemma string?_flatMap_escape (text : String) (rest : List Symbol) :
    string? ((text.toList.flatMap escape).map some ++ some '"' :: rest) =
      some (some text, rest) := by
  obtain ⟨ps, hps, hjoin⟩ := pieces?_flatMap_escape text.toList rest
  rw [string?, hps]
  change some ((join? ps).map String.ofList, rest) = _
  rw [hjoin, Option.map_some, String.ofList_toList]

lemma dropBlanks_cons {s : Symbol} (h : isBlank s = false) (rest : List Symbol) :
    dropBlanks (s :: rest) = s :: rest := by
  rw [dropBlanks, List.dropWhile_cons, h]
  rfl

/-- The text begins with a character that is no blank and closes no bracket. -/
def Begins (text : List Char) : Prop :=
  ∃ c rest, text = c :: rest ∧ isBlank (some c) = false ∧ c ≠ ']'

/-- The reader takes just this text from what stands before it, and finds the document in it. -/
structure Reads (depth : Nat) (text : List Char) (json : Json) : Prop where
  begins : Begins text
  value : ∃ raw : Raw, raw.read? .any depth = some json ∧
    ∀ fuel rest, 2 * text.length ≤ fuel → value? fuel (text.map some ++ rest) = some (raw, rest)

/-- The same for the texts of documents with commas between them, before a closing bracket. -/
structure ReadsItems (depth : Nat) (text : List Char) (items : List Json) : Prop where
  begins : Begins text
  values : ∃ raws : List Raw,
    (∀ position, Raw.readItems? .any depth position raws = some items) ∧
    ∀ fuel rest, 2 * text.length + 1 ≤ fuel →
      items? fuel (text.map some ++ some ']' :: rest) = some (raws, rest)

/-- The same for names with the texts of their documents, before a closing brace. -/
structure ReadsMembers (depth : Nat) (text : List Char) (members : List (String × Json)) :
    Prop where
  begins : ∃ rest, text = '"' :: rest
  values : ∃ raws : List (Option String × Raw), Raw.readMembers? .any depth raws = some members ∧
    ∀ fuel rest, 2 * text.length + 1 ≤ fuel →
      members? fuel (text.map some ++ some '\x7d' :: rest) = some (raws, rest)

variable {depth : Nat} {text texts : List Char} {json : Json} {items : List Json}
variable {members : List (String × Json)}

/-- The fuel for a text that begins is not zero. -/
lemma Reads.of_succ (raw : Raw) (hbegins : Begins text)
    (hraw : raw.read? .any depth = some json)
    (h : ∀ fuel rest, 2 * text.length ≤ fuel + 1 →
      value? (fuel + 1) (text.map some ++ rest) = some (raw, rest)) : Reads depth text json := by
  refine ⟨hbegins, raw, hraw, fun fuel rest hfuel => ?_⟩
  obtain ⟨c, tail, rfl, -⟩ := hbegins
  cases fuel with
  | zero => simp at hfuel
  | succ fuel => exact h fuel rest hfuel

lemma value?_quote (fuel : Nat) (input : List Symbol) : value? (fuel + 1) (some '"' :: input) =
    (string? input).map fun (text, rest) => (.string text, rest) := rfl

lemma value?_bracket (fuel : Nat) {c : Char} (hblank : isBlank (some c) = false) (hend : c ≠ ']')
    (input : List Symbol) : value? (fuel + 1) (some '[' :: some c :: input) =
      (items? fuel (some c :: input)).map fun (items, rest) => (Raw.array items, rest) := by
  rw [value?, dropBlanks_cons rfl]
  split
  case h_5 hinput =>
    cases hinput
    rw [dropBlanks_cons hblank]
    split
    · next h => exact absurd (Option.some.inj (List.cons.inj h).1) hend
    · rfl
  case h_7 hbracket _ => exact absurd rfl (hbracket _)
  all_goals
    rename_i hinput
    cases hinput

lemma value?_brace (fuel : Nat) (input : List Symbol) :
    value? (fuel + 1) (some '\x7b' :: some '"' :: input) =
      (members? fuel (some '"' :: input)).map fun (members, rest) => (.object members, rest) := rfl

lemma items?_of_value? {fuel : Nat} {input rest : List Symbol} {raw : Raw}
    (h : value? fuel input = some (raw, rest)) : items? (fuel + 1) input =
      match dropBlanks rest with
      | some ',' :: rest => (items? fuel rest).map fun (items, rest) => (raw :: items, rest)
      | some ']' :: rest => some ([raw], rest)
      | _ => none := by
  rw [items?, h]
  rfl

lemma members?_of_value? {fuel : Nat} {input rest left : List Symbol} {name : Option String}
    {raw : Raw} (hname : string? input = some (name, some ':' :: rest))
    (h : value? fuel rest = some (raw, left)) : members? (fuel + 1) (some '"' :: input) =
      match dropBlanks left with
      | some ',' :: rest =>
        (members? fuel rest).map fun (members, rest) => ((name, raw) :: members, rest)
      | some '\x7d' :: rest => some ([(name, raw)], rest)
      | _ => none := by
  rw [members?, dropBlanks_cons rfl]
  change (string? input).bind _ = _
  rw [hname]
  change (value? fuel rest).bind _ = _
  rw [h]
  rfl

lemma reads_null : Reads depth (write .null) .null :=
  .of_succ .null ⟨_, _, rfl, rfl, by decide⟩ (by rw [Raw.read?]) fun _ _ _ => rfl

lemma reads_bool (b : Bool) : Reads depth (write (.bool b)) (.bool b) := by
  cases b <;>
    exact .of_succ (.bool _) ⟨_, _, rfl, rfl, by decide⟩ (by rw [Raw.read?]) fun _ _ _ => rfl

lemma map_writeString (name : String) (rest : List Symbol) :
    (writeString name).map some ++ rest =
      some '"' :: ((name.toList.flatMap escape).map some ++ some '"' :: rest) := by
  rw [writeString, List.cons_append, List.map_cons, List.map_append, List.cons_append,
    List.append_assoc]
  rfl

lemma reads_string (text : String) : Reads depth (write (.string text)) (.string text) := by
  refine .of_succ (.string (some text)) ⟨_, _, rfl, rfl, by decide⟩
    (by rw [Raw.read?]; rfl) fun fuel rest _ => ?_
  rw [write, map_writeString, value?_quote, string?_flatMap_escape]
  rfl

lemma Reads.single (h : Reads depth text json) : ReadsItems depth text [json] := by
  obtain ⟨hbegins, raw, hraw, hvalue⟩ := h
  refine ⟨hbegins, [raw], fun position => ?_, fun fuel rest hfuel => ?_⟩
  · rw [Raw.readItems?, Raw.readItems?]
    change ((raw.read? .any depth).bind _) = _
    rw [hraw]
    rfl
  · obtain ⟨fuel, rfl⟩ : ∃ n, fuel = n + 1 := ⟨fuel - 1, by omega⟩
    rw [items?_of_value? (hvalue fuel (some ']' :: rest) (by omega))]
    rfl

lemma Reads.cons (h : Reads depth text json) (hs : ReadsItems depth texts items) :
    ReadsItems depth (text ++ ',' :: texts) (json :: items) := by
  obtain ⟨⟨c, tail, rfl, hblank, hend⟩, raw, hraw, hvalue⟩ := h
  obtain ⟨-, raws, hraws, hvalues⟩ := hs
  refine ⟨⟨c, _, rfl, hblank, hend⟩, raw :: raws, fun position => ?_, fun fuel rest hfuel => ?_⟩
  · rw [Raw.readItems?]
    change ((raw.read? .any depth).bind _) = _
    rw [hraw]
    change (Raw.readItems? .any depth (position + 1) raws).bind _ = _
    rw [hraws]
    rfl
  · have htexts : (',' :: texts).length = texts.length + 1 := rfl
    rw [List.length_append, htexts] at hfuel
    obtain ⟨fuel, rfl⟩ : ∃ n, fuel = n + 1 := ⟨fuel - 1, by omega⟩
    rw [List.map_append, List.append_assoc, items?_of_value? (hvalue fuel _ (by omega))]
    change (items? fuel (texts.map some ++ some ']' :: rest)).map _ = _
    rw [hvalues fuel rest (by omega)]
    rfl

lemma Reads.member (h : Reads depth text json) (name : String) :
    ReadsMembers depth (writeString name ++ ':' :: text) [(name, json)] := by
  obtain ⟨-, raw, hraw, hvalue⟩ := h
  refine ⟨⟨_, rfl⟩, [(some name, raw)], ?_, fun fuel rest hfuel => ?_⟩
  · rw [Raw.readMembers?, Raw.readMembers?]
    change ((raw.read? .any depth).bind _) = _
    rw [hraw]
    rfl
  · rw [List.length_append, List.length_cons] at hfuel
    obtain ⟨fuel, rfl⟩ : ∃ n, fuel = n + 1 := ⟨fuel - 1, by omega⟩
    rw [List.map_append, List.append_assoc, map_writeString]
    refine (members?_of_value? (string?_flatMap_escape name _)
      (hvalue fuel (some '\x7d' :: rest) (by omega))).trans ?_
    rfl

lemma Reads.member_cons (h : Reads depth text json) (name : String)
    (hs : ReadsMembers depth texts members) :
    ReadsMembers depth (writeString name ++ ':' :: text ++ ',' :: texts)
      ((name, json) :: members) := by
  obtain ⟨-, raw, hraw, hvalue⟩ := h
  obtain ⟨-, raws, hraws, hvalues⟩ := hs
  refine ⟨⟨_, rfl⟩, (some name, raw) :: raws, ?_, fun fuel rest hfuel => ?_⟩
  · rw [Raw.readMembers?, hraws]
    change ((raw.read? .any depth).bind _) = _
    rw [hraw]
    rfl
  · rw [List.length_append, List.length_append, List.length_cons, List.length_cons] at hfuel
    obtain ⟨fuel, rfl⟩ : ∃ n, fuel = n + 1 := ⟨fuel - 1, by omega⟩
    rw [List.map_append, List.map_append, List.append_assoc, List.append_assoc, map_writeString]
    refine (members?_of_value? (string?_flatMap_escape name _)
      (hvalue fuel (some ',' :: (texts.map some ++ some '\x7d' :: rest)) (by omega))).trans ?_
    change (members? fuel (texts.map some ++ some '\x7d' :: rest)).map _ = _
    rw [hvalues fuel rest (by omega)]
    rfl

lemma reads_empty_array : Reads (depth + 1) (write (.array [])) (.array []) :=
  .of_succ (.array []) ⟨_, _, rfl, rfl, by decide⟩ (by rw [Raw.read?, Raw.readItems?]; rfl)
    fun _ _ _ => rfl

lemma reads_empty_object : Reads (depth + 1) (write (.object [])) (.object []) :=
  .of_succ (.object []) ⟨_, _, rfl, rfl, by decide⟩
    (by rw [Raw.read?, Raw.readMembers?]; rfl) fun _ _ _ => rfl

lemma ReadsItems.array (h : ReadsItems depth text items) :
    Reads (depth + 1) ('[' :: text ++ [']']) (.array items) := by
  obtain ⟨⟨c, tail, rfl, hblank, hend⟩, raws, hraws, hvalues⟩ := h
  refine .of_succ (.array raws) ⟨_, _, rfl, rfl, by decide⟩ ?_ fun fuel rest hfuel => ?_
  · rw [Raw.read?, hraws]
    rfl
  · have hitems := hvalues fuel rest (by simp at hfuel ⊢; omega)
    rw [List.map_append, List.append_assoc]
    refine (value?_bracket fuel hblank hend _).trans ?_
    exact (congrArg _ hitems).trans rfl

lemma ReadsMembers.object (h : ReadsMembers depth text members)
    (horder : Entries.Ascending members) :
    Reads (depth + 1) ('\x7b' :: text ++ ['\x7d']) (.object members) := by
  obtain ⟨⟨tail, rfl⟩, raws, hraws, hvalues⟩ := h
  refine .of_succ (.object raws) ⟨_, _, rfl, rfl, by decide⟩ ?_ fun fuel rest hfuel => ?_
  · rw [Raw.read?, hraws]
    exact congrArg (fun entries => some (Json.object entries)) (Entries.ofList_of_ascending horder)
  · have hmembers := hvalues fuel rest (by simp at hfuel ⊢; omega)
    rw [List.map_append, List.append_assoc]
    refine (value?_brace fuel _).trans ?_
    exact (congrArg _ hmembers).trans rfl

/-- The items of an array that is not empty. -/
lemma readsItems_writeItems {item : Json} (h : ∀ j ∈ item :: items, Reads depth (write j) j) :
    ReadsItems depth (writeItems (item :: items)) (item :: items) := by
  induction items generalizing item with
  | nil =>
    rw [writeItems]
    exact (h item List.mem_cons_self).single
  | cons next items ih =>
    rw [writeItems]
    · exact (h item List.mem_cons_self).cons (ih fun j hj => h j (List.mem_cons_of_mem _ hj))
    · exact List.cons_ne_nil next items

/-- The members of an object that is not empty. -/
lemma readsMembers_writeMembers {m : String × Json}
    (h : ∀ m' ∈ m :: members, Reads depth (write m'.2) m'.2) :
    ReadsMembers depth (writeMembers (m :: members)) (m :: members) := by
  induction members generalizing m with
  | nil =>
    obtain ⟨name, json⟩ := m
    rw [writeMembers]
    exact (h _ List.mem_cons_self).member name
  | cons next members ih =>
    obtain ⟨name, json⟩ := m
    rw [writeMembers]
    · exact (h _ List.mem_cons_self).member_cons name
        (ih fun m' hm' => h m' (List.mem_cons_of_mem _ hm'))
    · exact List.cons_ne_nil next members

/-- The reader takes just its text for a plain document, whatever comes after it. -/
lemma reads_write (h : Plain depth json) : Reads depth (write json) json := by
  induction h with
  | null => exact reads_null
  | bool b => exact reads_bool b
  | string text => exact reads_string text
  | @array depth items _ ih =>
    cases items with
    | nil => exact reads_empty_array
    | cons item items => exact (readsItems_writeItems ih).array
  | @object depth members horder _ ih =>
    cases members with
    | nil => exact reads_empty_object
    | cons m members => exact (readsMembers_writeMembers ih).object horder

end Grammar

/-- A plain document is read back from its compact text, whatever characters its strings have. -/
theorem parse?_render {json : Json} (h : Plain depthLimit json) :
    parse? json.render = some json := by
  obtain ⟨-, raw, hraw, hvalue⟩ := Grammar.reads_write h
  have hsymbols := hvalue (2 * (json.write.map some).length + 2) [] (by rw [List.length_map]; omega)
  rw [List.append_nil] at hsymbols
  rw [parse?, ofSymbols?, Symbol.ofString, render, String.toList_ofList, Raw.ofSymbols?, hsymbols]
  exact hraw

end Json

end GraphClient
