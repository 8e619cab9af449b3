import GraphClient.Uuid
import Mathlib.Algebra.GroupWithZero.Nat
import Mathlib.Tactic.Common
import Mathlib.Tactic.Ring

/-!
# Texts of UUIDs

The digits of a UUID are read back as its bits from each of its written forms: with hyphens, without
them, in braces and in the name space of UUIDs. The case of a digit counts nowhere.
-/

namespace GraphClient.Uuid

/-- The text is a written form of the UUID, with each digit in either case. -/
inductive Writes (id : Uuid) : List Char → Prop
  | hyphenated {digits : List Char} (h : digits.map Char.toLower = id.digitsWith ['-']) :
      Writes id digits
  | simple {digits : List Char} (h : digits.map Char.toLower = id.digitsWith []) :
      Writes id digits
  | braced {digits : List Char} (h : digits.map Char.toLower = id.digitsWith ['-']) :
      Writes id ('\x7b' :: digits ++ ['\x7d'])
  | urn {digits : List Char} (h : digits.map Char.toLower = id.digitsWith ['-']) :
      Writes id (urn ++ digits)

variable {c m : Char} {id : Uuid} {text digits mark : List Char}

/-! ### Letter case -/

lemma toNat_toLower (c : Char) :
    c.toLower.toNat = if 65 ≤ c.toNat ∧ c.toNat ≤ 90 then c.toNat + 32 else c.toNat := by
  have hrange : (c.val ≥ 'A'.val ∧ c.val ≤ 'Z'.val) ↔ 65 ≤ c.toNat ∧ c.toNat ≤ 90 := by
    rw [ge_iff_le, UInt32.le_iff_toNat_le, UInt32.le_iff_toNat_le]
    rfl
  unfold Char.toLower
  split
  · rename_i h
    rw [if_pos (hrange.1 h)]
    change (c.val + 32).toNat = _
    rw [UInt32.toNat_add]
    change (c.toNat + 32) % 2 ^ 32 = _
    have hle := (hrange.1 h).2
    omega
  · rename_i h
    rw [if_neg (hrange.not.1 h)]

/-- A character that is no letter is the lower case of itself alone. -/
lemma toLower_eq_iff (hm : m.toNat < 65 ∨ 122 < m.toNat) : c.toLower = m ↔ c = m := by
  rw [← Char.toNat_inj, ← Char.toNat_inj, toNat_toLower]
  split <;> omega

lemma map_toLower_eq_some_iff {found : Option Char} (hm : m.toNat < 65 ∨ 122 < m.toNat) :
    found.map Char.toLower = some m ↔ found = some m := by
  cases found with
  | none => exact iff_of_false nofun nofun
  | some c => rw [Option.map_some, Option.some_inj, Option.some_inj, toLower_eq_iff hm]

lemma hexDigit?_eq (c : Char) : hexDigit? c =
    if 48 ≤ c.toNat ∧ c.toNat ≤ 57 then some (c.toNat - 48)
    else if 97 ≤ c.toNat ∧ c.toNat ≤ 102 then some (c.toNat - 97 + 10)
    else if 65 ≤ c.toNat ∧ c.toNat ≤ 70 then some (c.toNat - 65 + 10)
    else none := by
  simp only [hexDigit?, Char.le_def, UInt32.le_iff_toNat_le]
  rfl

lemma hexDigit?_toLower (c : Char) : hexDigit? c.toLower = hexDigit? c := by
  rw [hexDigit?_eq, hexDigit?_eq, toNat_toLower]
  split_ifs <;> first | omega | exact congrArg some (by omega) | rfl

lemma hexNumber?_map_toLower (n : Nat) (text : List Char) :
    hexNumber? n (text.map Char.toLower) = hexNumber? n text := by
  induction text generalizing n with
  | nil => rfl
  | cons c rest ih =>
    rw [List.map_cons, hexNumber?, hexNumber?, hexDigit?_toLower]
    simp only [ih]

lemma ofSimple?_map_toLower (text : List Char) :
    ofSimple? (text.map Char.toLower) = ofSimple? text := by
  rw [ofSimple?, ofSimple?, List.length_map, hexNumber?_map_toLower]

lemma ofHyphenated?_map_toLower (text : List Char) :
    ofHyphenated? (text.map Char.toLower) = ofHyphenated? text := by
  have hhyphen (i : Nat) :
      ((text.map Char.toLower)[i]? == some '-') = (text[i]? == some '-') := by
    rw [Bool.eq_iff_iff, beq_iff_eq, beq_iff_eq, List.getElem?_map,
      map_toLower_eq_some_iff (.inl (by decide))]
  simp only [ofHyphenated?, List.length_map, hhyphen, ← List.map_take, ← List.map_drop,
    ← List.map_append, ofSimple?_map_toLower]

/-! ### Digits -/

lemma group_succ (id : Uuid) (count last : Nat) :
    id.group (count + 1) last = id.digit (last + count) :: id.group count last := by
  rw [group, List.range_succ, List.reverse_concat, List.map_cons, group]

lemma hexDigit?_digit (id : Uuid) (place : Nat) :
    hexDigit? (id.digit place) = some (id.bits.toNat / 16 ^ place % 16) := by
  have hall : ∀ d < 16, hexDigit? (Nat.digitChar d) = some d := by decide
  exact hall _ (Nat.mod_lt _ (by decide))

/-- The last digits of a UUID write its bits modulo a power of sixteen. -/
lemma hexNumber?_group (id : Uuid) (n count : Nat) : hexNumber? n (id.group count 0) =
    some (n * 16 ^ count + id.bits.toNat % 16 ^ count) := by
  induction count generalizing n with
  | zero =>
    rw [Nat.pow_zero, Nat.mod_one, Nat.mul_one]
    rfl
  | succ count ih =>
    rw [group_succ, hexNumber?, hexDigit?_digit, Option.bind_some, ih, Nat.zero_add,
      Nat.mod_pow_succ]
    congr 1
    ring

lemma length_group (id : Uuid) (count last : Nat) : (id.group count last).length = count := by
  rw [group, List.length_map, List.length_reverse, List.length_range]

lemma group_append (id : Uuid) (count count' last : Nat) :
    id.group count (last + count') ++ id.group count' last = id.group (count + count') last := by
  induction count with
  | zero =>
    rw [Nat.zero_add]
    rfl
  | succ count ih =>
    rw [group_succ, List.cons_append, ih, Nat.succ_add, group_succ, Nat.add_assoc,
      Nat.add_comm count']

lemma digitsWith_nil (id : Uuid) : id.digitsWith [] = id.group 32 0 := by
  simp only [digitsWith, List.append_nil]
  rw [group_append id 8 4 20, group_append id 12 4 16, group_append id 16 4 12,
    group_append id 20 12 0]

lemma ofSimple?_digitsWith (id : Uuid) : ofSimple? (id.digitsWith []) = some id := by
  have hlt : id.bits.toNat < 16 ^ 32 := id.bits.isLt
  rw [ofSimple?, digitsWith_nil, if_pos (length_group id 32 0), hexNumber?_group, Nat.zero_mul,
    Nat.zero_add, Nat.mod_eq_of_lt hlt, Option.map_some, BitVec.ofNat_toNat, BitVec.setWidth_eq]

lemma length_hyphenated (id : Uuid) : (id.digitsWith ['-']).length = 36 := by
  simp only [digitsWith, List.length_append, length_group, List.length_cons, List.length_nil]

/-- The hyphens are at their places whatever the digits are. -/
lemma ofHyphenated?_append {a b c d e : List Char} (ha : a.length = 8) (hb : b.length = 4)
    (hc : c.length = 4) (hd : d.length = 4) (he : e.length = 12) :
    ofHyphenated? (a ++ ['-'] ++ b ++ ['-'] ++ c ++ ['-'] ++ d ++ ['-'] ++ e) =
      ofSimple? (a ++ b ++ c ++ d ++ e) := by
  rw [ofHyphenated?, if_pos]
  · simp (disch := omega) [List.drop_append, List.drop_eq_nil_of_le, ha, hb, hc, hd]
  · simp [List.getElem?_append, ha, hb, hc, hd, he]

lemma ofHyphenated?_digitsWith (id : Uuid) : ofHyphenated? (id.digitsWith ['-']) = some id := by
  rw [digitsWith, ofHyphenated?_append (length_group ..) (length_group ..) (length_group ..)
    (length_group ..) (length_group ..), ← ofSimple?_digitsWith id]
  simp only [digitsWith, List.append_nil]

lemma ofHyphenated?_of_digits (h : digits.map Char.toLower = id.digitsWith ['-']) :
    digits.length = 36 ∧ ofHyphenated? digits = some id := by
  constructor
  · rw [← length_hyphenated id, ← h, List.length_map]
  · rw [← ofHyphenated?_map_toLower, h, ofHyphenated?_digitsWith]

lemma ofSimple?_of_digits (h : digits.map Char.toLower = id.digitsWith []) :
    digits.length = 32 ∧ ofSimple? digits = some id := by
  constructor
  · rw [← length_group id 32 0, ← digitsWith_nil, ← h, List.length_map]
  · rw [← ofSimple?_map_toLower, h, ofSimple?_digitsWith]

/-- After the mark of the name space, itself in either case, the digits are read as everywhere. -/
lemma ofChars?_of_mark (hmark : mark.map Char.toLower = urn)
    (h : digits.map Char.toLower = id.digitsWith ['-']) : ofChars? (mark ++ digits) = some id := by
  obtain ⟨hlength, hread⟩ := ofHyphenated?_of_digits h
  have hnine : mark.length = 9 := by rw [← List.length_map Char.toLower, hmark]; rfl
  have hall : (mark ++ digits).length = 45 := by rw [List.length_append, hnine, hlength]
  rw [ofChars?, if_neg (by omega), if_neg (by omega), if_neg (by omega),
    List.take_left' hnine, if_pos hmark, List.drop_left' hnine, hread]

/-- Each written form of a UUID is read as it. The length of the text decides which form it is. -/
lemma ofChars?_of_writes (h : id.Writes text) : ofChars? text = some id := by
  cases h with
  | hyphenated h =>
    obtain ⟨hlength, hread⟩ := ofHyphenated?_of_digits h
    rw [ofChars?, if_neg (by omega), if_pos hlength, hread]
  | simple h =>
    obtain ⟨hlength, hread⟩ := ofSimple?_of_digits h
    rw [ofChars?, if_pos hlength, hread]
  | @braced digits h =>
    obtain ⟨hlength, hread⟩ := ofHyphenated?_of_digits h
    have hbraces : ('\x7b' :: digits ++ ['\x7d']).length = 38 := by simp [hlength]
    have hinner : ('\x7b' :: digits ++ ['\x7d']).tail.take 36 = digits :=
      List.take_left' hlength
    rw [ofChars?, if_neg (by omega), if_neg (by omega), if_pos hbraces,
      if_pos ⟨rfl, List.getLast?_concat⟩, List.drop_one, hinner, hread]
  | urn h => exact ofChars?_of_mark (by decide) h

lemma toLower_digit (id : Uuid) (place : Nat) : (id.digit place).toLower = id.digit place := by
  have hall : ∀ d < 16, (Nat.digitChar d).toLower = Nat.digitChar d := by decide
  exact hall _ (Nat.mod_lt _ (by decide))

/-- The text of a UUID is the form with hyphens. -/
lemma writes_text (id : Uuid) : id.Writes id.text.toList := by
  have hgroup (count last : Nat) :
      (id.group count last).map Char.toLower = id.group count last := by
    rw [group, List.map_map]
    exact List.map_congr_left fun i _ => toLower_digit id (last + i)
  have hhyphen : ['-'].map Char.toLower = ['-'] := rfl
  refine .hyphenated ?_
  simp only [text, digitsWith, String.toList_ofList, List.map_append, hgroup, hhyphen]

end GraphClient.Uuid
