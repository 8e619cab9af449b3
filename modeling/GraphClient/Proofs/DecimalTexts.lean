import GraphClient.Number.Decimal
import Mathlib.Algebra.GroupWithZero.Nat
import Mathlib.Data.List.TakeWhile
import Mathlib.Tactic.Common

/-!
# Decimal texts of numbers

The texts that are read as an integer are exactly those with an optional sign and one or more ASCII
digits, and the usual decimal text of an integer is one of them. Digits with a point among them are
read as what they write.
-/

namespace GraphClient

namespace Decimal

/-- An optional sign and one or more digits write the integer of the digits with that sign. -/
inductive Writes : Int → List Char → Prop
  | unsigned {digits : List Char} (hne : digits ≠ []) (h : ∀ c ∈ digits, isDigit c = true) :
      Writes (value digits) digits
  | plus {digits : List Char} (hne : digits ≠ []) (h : ∀ c ∈ digits, isDigit c = true) :
      Writes (value digits) ('+' :: digits)
  | minus {digits : List Char} (hne : digits ≠ []) (h : ∀ c ∈ digits, isDigit c = true) :
      Writes (-(value digits)) ('-' :: digits)

variable {text digits : List Char} {n : Int}

lemma nat?_eq_some_iff {m : Nat} : nat? digits = some m ↔
    (digits ≠ [] ∧ ∀ c ∈ digits, isDigit c = true) ∧ value digits = m := by
  rw [nat?]
  split
  · rename_i h
    simp only [Bool.or_eq_true, List.isEmpty_iff, Bool.not_eq_true', List.all_eq_false] at h
    refine ⟨nofun, fun hd => ?_⟩
    rcases h with h | ⟨c, hc, hn⟩
    · exact absurd h hd.1.1
    · exact absurd (hd.1.2 c hc) hn
  · rename_i h
    simp only [Bool.or_eq_true, List.isEmpty_iff, Bool.not_eq_true', not_or, Bool.not_eq_false,
      List.all_eq_true] at h
    rw [Option.some_inj, and_iff_right h]

lemma sign_of_isDigit (h : ∀ c ∈ digits, isDigit c = true) : sign digits = (false, digits) := by
  unfold sign
  split
  · exact absurd (h '-' List.mem_cons_self) (by decide)
  · exact absurd (h '+' List.mem_cons_self) (by decide)
  · rfl

lemma int?_eq (text : List Char) : int? text =
    (nat? (sign text).2).map fun m : Nat => if (sign text).1 = true then -(m : Int) else m := by
  rw [int?]
  dsimp only
  cases nat? (sign text).2 <;> rfl

/-- What is read as an integer writes it, and the other way round. -/
theorem int?_eq_some_iff : int? text = some n ↔ Writes n text := by
  rw [int?_eq, Option.map_eq_some_iff]
  constructor
  · rintro ⟨m, hm, rfl⟩
    obtain ⟨⟨hne, hd⟩, rfl⟩ := nat?_eq_some_iff.1 hm
    revert hne hd
    rw [sign.eq_def]
    split
    · exact .minus
    · exact .plus
    · exact .unsigned
  · intro h
    cases h with
    | unsigned hne hd =>
      rw [sign_of_isDigit hd]
      exact ⟨_, nat?_eq_some_iff.2 ⟨⟨hne, hd⟩, rfl⟩, rfl⟩
    | plus hne hd => exact ⟨_, nat?_eq_some_iff.2 ⟨⟨hne, hd⟩, rfl⟩, rfl⟩
    | minus hne hd => exact ⟨_, nat?_eq_some_iff.2 ⟨⟨hne, hd⟩, rfl⟩, rfl⟩

lemma int64?_of_writes {n : Int64} (h : Writes n.toInt text) : int64? text = some n := by
  have hn : Int64.minValue.toInt ≤ n.toInt ∧ n.toInt ≤ Int64.maxValue.toInt :=
    ⟨n.minValue_le_toInt, n.toInt_le⟩
  rw [int64?, int?_eq_some_iff.2 h, Option.bind_some, if_pos hn, Int64.ofInt_toInt]

lemma digit?_of_isDigit {c : Char} (h : c.isDigit = true) :
    digit? c = some (c.toNat - '0'.toNat) := by
  rw [Char.isDigit, Bool.and_eq_true, decide_eq_true_eq, decide_eq_true_eq] at h
  have hrange : '0' ≤ c ∧ c ≤ '9' := h
  rw [digit?, if_pos hrange]

lemma isAlpha_of_isDigit {c : Char} (h : c.isDigit = true) : c.isAlpha = false := by
  have hrange : 48 ≤ c.toNat ∧ c.toNat ≤ 57 := by
    simpa [Char.isDigit, UInt32.le_iff_toNat_le] using h
  change (decide (65 ≤ c.toNat ∧ c.toNat ≤ 90) ||
    (decide (97 ≤ c.toNat) && decide (c.toNat ≤ 122))) = false
  rw [Bool.or_eq_false_iff, Bool.and_eq_false_iff, decide_eq_false_iff_not,
    decide_eq_false_iff_not, decide_eq_false_iff_not]
  omega

lemma isDigit_of_char {c : Char} (h : c.isDigit = true) : isDigit c = true := by
  rw [isDigit, digit?_of_isDigit h]
  rfl

lemma isDigit_of_mem_toDigits {m : Nat} : ∀ c ∈ Nat.toDigits 10 m, isDigit c = true :=
  fun _ hc => isDigit_of_char (Nat.isDigit_of_mem_toDigits (by decide) (by decide) hc)

lemma value_eq_ofDigitChars (h : ∀ c ∈ digits, c.isDigit = true) :
    value digits = Nat.ofDigitChars 10 digits 0 := by
  suffices ∀ before : Nat, digits.foldl (fun n c => 10 * n + (digit? c).getD 0) before =
      Nat.ofDigitChars 10 digits before from this 0
  induction digits with
  | nil => exact fun _ => rfl
  | cons c rest ih =>
    intro before
    rw [List.foldl_cons, digit?_of_isDigit (h c List.mem_cons_self),
      ih fun d hd => h d (List.mem_cons_of_mem _ hd)]
    rfl

lemma value_toDigits (m : Nat) : value (Nat.toDigits 10 m) = m := by
  rw [value_eq_ofDigitChars fun _ => Nat.isDigit_of_mem_toDigits (by decide) (by decide),
    Nat.ofDigitChars_ten_toDigits]

lemma isDigit_padded (n before after : Nat) : ∀ c ∈ List.replicate before '0' ++
    (Nat.toDigits 10 n ++ List.replicate after '0'), c.isDigit = true := by
  intro c hc
  have hzero {k : Nat} (h : c ∈ List.replicate k '0') : c.isDigit = true :=
    List.eq_of_mem_replicate h ▸ by decide
  rcases List.mem_append.1 hc with hc | hc
  · exact hzero hc
  · rcases List.mem_append.1 hc with hc | hc
    · exact Nat.isDigit_of_mem_toDigits (by decide) (by decide) hc
    · exact hzero hc

/-- Zeros before the digits of a number do not count, and each one behind them is a place. -/
lemma value_padded (n before after : Nat) : value (List.replicate before '0' ++
    (Nat.toDigits 10 n ++ List.replicate after '0')) = n * 10 ^ after := by
  rw [value_eq_ofDigitChars (isDigit_padded n before after), Nat.ofDigitChars_append,
    Nat.ofDigitChars_append, Nat.ofDigitChars_replicate_zero, Nat.ofDigitChars_replicate_zero,
    Nat.mul_zero, Nat.ofDigitChars_ten_toDigits, Nat.mul_comm]

/-- The decimal text of an integer writes it. -/
theorem writes_toString (n : Int) : Writes n (toString n).toList := by
  change Writes n n.repr.toList
  have hdigits (m : Nat) : m.repr.toList = Nat.toDigits 10 m := by
    rw [Nat.repr_eq_ofList_toDigits, String.toList_ofList]
  rw [Int.repr_eq_if]
  split
  · have h := Writes.unsigned (Nat.toDigits_ne_nil (n := n.toNat)) isDigit_of_mem_toDigits
    rwa [value_toDigits, Int.toNat_of_nonneg ‹_›, ← hdigits] at h
  · have h := Writes.minus (Nat.toDigits_ne_nil (n := (-n).toNat)) isDigit_of_mem_toDigits
    rw [value_toDigits, Int.toNat_of_nonneg (by omega), Int.neg_neg, ← hdigits] at h
    rwa [String.toList_append]

end Decimal

namespace DecimalFraction

open Decimal

variable {whole fraction : List Char} {negative : Bool}

lemma unsigned?_whole (hne : whole ≠ []) (h : ∀ c ∈ whole, isDigit c = true) :
    unsigned? negative whole = some ⟨negative, value whole, 0⟩ := by
  have htake : whole.takeWhile isDigit = whole := List.takeWhile_eq_self_iff.2 h
  have hdrop : whole.dropWhile isDigit = [] := List.dropWhile_eq_nil_iff.2 h
  have hempty : whole.isEmpty = false := by simpa using hne
  simp [unsigned?, htake, hdrop, hempty, exponentPart?]

lemma unsigned?_point (hne : whole ≠ []) (hw : ∀ c ∈ whole, isDigit c = true)
    (hf : ∀ c ∈ fraction, isDigit c = true) : unsigned? negative (whole ++ '.' :: fraction) =
      some ⟨negative, value (whole ++ fraction), -(fraction.length : Int)⟩ := by
  have htake : (whole ++ '.' :: fraction).takeWhile isDigit = whole := by
    rw [List.takeWhile_append_of_pos hw, List.takeWhile_cons_of_neg (by decide), List.append_nil]
  have hdrop : (whole ++ '.' :: fraction).dropWhile isDigit = '.' :: fraction := by
    rw [List.dropWhile_append_of_pos hw, List.dropWhile_cons_of_neg (by decide)]
  have htake' : fraction.takeWhile isDigit = fraction := List.takeWhile_eq_self_iff.2 hf
  have hdrop' : fraction.dropWhile isDigit = [] := List.dropWhile_eq_nil_iff.2 hf
  have hempty : whole.isEmpty = false := by simpa using hne
  simp [unsigned?, htake, hdrop, htake', hdrop', hempty, exponentPart?]

end DecimalFraction

end GraphClient
