import GraphClient.Proofs.BulkSets

/-!
# Integers as texts

The payload of an integer type may be a text. It stands for the integer that it writes in decimal
with a sign or without one, however many blanks are around it, if that is an integer of 64 bits.
Every other text stands for zero.
-/

namespace GraphClient

namespace Blank

variable {text core before after : List Char}

/-- A text with any number of blanks before it and behind it. -/
def Around (core text : List Char) : Prop :=
  ∃ before after, text = before ++ core ++ after ∧
    (∀ c ∈ before, isBlank c = true) ∧ ∀ c ∈ after, isBlank c = true

lemma dropWhile_isBlank (hne : core ≠ []) (hcore : ∀ c ∈ core, isBlank c = false) :
    (core ++ after).dropWhile isBlank = core ++ after := by
  cases core with
  | nil => exact absurd rfl hne
  | cons c rest =>
    have hc : ¬ isBlank c = true := by simp [hcore c List.mem_cons_self]
    exact List.dropWhile_cons_of_neg hc

/-- Trimming undoes it for a text that has no blanks itself. -/
lemma trim_of_around (h : Around core text) (hne : core ≠ [])
    (hcore : ∀ c ∈ core, isBlank c = false) : trim text = core := by
  obtain ⟨before, after, rfl, hbefore, hafter⟩ := h
  have hstart : (before ++ core ++ after).dropWhile isBlank = core ++ after := by
    rw [List.append_assoc, List.dropWhile_append_of_pos hbefore, dropWhile_isBlank hne hcore]
  have hreverse : (core.reverse ++ []).dropWhile isBlank = core.reverse ++ [] :=
    dropWhile_isBlank (by simpa using hne) (by simpa using hcore)
  have hend : (core ++ after).reverse.dropWhile isBlank = core.reverse := by
    rw [List.reverse_append, List.dropWhile_append_of_pos (by simpa using hafter)]
    simpa using hreverse
  rw [trim, hstart, hend, List.reverse_reverse]

/-- What trimming takes away are blanks. -/
lemma around_trim (text : List Char) : Around (trim text) text := by
  let rest := text.dropWhile isBlank
  have hrest : text = text.takeWhile isBlank ++ trim text ++
      (rest.reverse.takeWhile isBlank).reverse := by
    calc text = text.takeWhile isBlank ++ rest := List.takeWhile_append_dropWhile.symm
      _ = text.takeWhile isBlank ++
          (rest.reverse.takeWhile isBlank ++ rest.reverse.dropWhile isBlank).reverse := by
        rw [List.takeWhile_append_dropWhile (l := rest.reverse), List.reverse_reverse]
      _ = _ := by rw [List.reverse_append, ← List.append_assoc, trim]
  exact ⟨_, _, hrest, fun _ => List.mem_takeWhile_imp,
    fun _ hc => List.mem_takeWhile_imp (List.mem_reverse.1 hc)⟩

end Blank

namespace Decimal

variable {text core : List Char} {n : Int}

/-- Blanks, the text of an integer, and blanks again. -/
def WritesAmidBlanks (n : Int) (text : List Char) : Prop :=
  ∃ core, Blank.Around core text ∧ Writes n core

lemma not_isBlank_of_isDigit {c : Char} (h : isDigit c = true) : Blank.isBlank c = false := by
  have hrange : '0' ≤ c ∧ c ≤ '9' := by
    by_contra hn
    rw [isDigit, digit?, if_neg hn] at h
    cases h
  have hlow : 48 ≤ c.toNat := hrange.1
  have hhigh : c.toNat ≤ 57 := hrange.2
  simp only [Blank.isBlank, Blank.ranges, List.any_cons, List.any_nil, Bool.or_false,
    Bool.or_eq_false_iff, Bool.and_eq_false_iff, decide_eq_false_iff_not]
  omega

lemma Writes.ne_nil (h : Writes n core) : core ≠ [] := by
  cases h with
  | unsigned hne => exact hne
  | plus => nofun
  | minus => nofun

lemma Writes.not_isBlank (h : Writes n core) : ∀ c ∈ core, Blank.isBlank c = false := by
  cases h with
  | unsigned _ hd => exact fun c hc => not_isBlank_of_isDigit (hd c hc)
  | plus _ hd =>
    exact List.forall_mem_cons.2 ⟨by decide, fun c hc => not_isBlank_of_isDigit (hd c hc)⟩
  | minus _ hd =>
    exact List.forall_mem_cons.2 ⟨by decide, fun c hc => not_isBlank_of_isDigit (hd c hc)⟩

lemma writesAmidBlanks_iff : WritesAmidBlanks n text ↔ Writes n (Blank.trim text) := by
  constructor
  · rintro ⟨core, hcore, hn⟩
    rwa [Blank.trim_of_around hcore hn.ne_nil hn.not_isBlank]
  · intro h
    exact ⟨_, Blank.around_trim text, h⟩

lemma writesAmidBlanks_iff_int? :
    WritesAmidBlanks n text ↔ int? (Blank.trim text) = some n := by
  rw [writesAmidBlanks_iff, int?_eq_some_iff]

end Decimal

namespace GraphSON

open Decimal

variable {text : String}

lemma Handler.integerOfText_eq {n : Int64} (h : WritesAmidBlanks n.toInt text.toList) :
    integerOfText text = n := by
  rw [integerOfText, int64?_of_writes (writesAmidBlanks_iff.1 h), Option.getD_some]

/-- A text that writes no integer, or one that 64 bits do not hold, counts as zero. -/
lemma Handler.integerOfText_eq_zero (h : ∀ n, WritesAmidBlanks n text.toList →
      n < -9223372036854775808 ∨ 9223372036854775807 < n) : integerOfText text = 0 := by
  rw [integerOfText, int64?]
  cases hn : int? (Blank.trim text.toList) with
  | none => rfl
  | some n =>
    have hout := h n (writesAmidBlanks_iff_int?.2 hn)
    have hmin : Int64.minValue.toInt = -9223372036854775808 := rfl
    have hmax : Int64.maxValue.toInt = 9223372036854775807 := rfl
    rw [Option.bind_some, if_neg (by omega), Option.getD_none]

namespace Decoder

/-- A text in an envelope of an integer type stands for the integer that it writes, if 64 bits hold
it, and otherwise for zero. So the decimal text of an integer, with blanks around it or without,
stands for the same as the number. -/
theorem value_of_integerText {json : Json} {tag text : String}
    (htag : tag = Tag.int32 ∨ tag = Tag.int64)
    (hj : Envelope.ofJson? json = some ⟨tag, .string text⟩) :
    (∀ n, WritesAmidBlanks n text.toList →
        -9223372036854775808 ≤ n → n ≤ 9223372036854775807 →
        ∃ i : Int64, i.toInt = n ∧ standard.value json = .integer i) ∧
      ((∀ n, WritesAmidBlanks n text.toList →
          n < -9223372036854775808 ∨ 9223372036854775807 < n) →
        standard.value json = .integer 0) ∧
      ∀ i : Int64, Blank.Around (toString i.toInt).toList text.toList →
        standard.value json = .integer i ∧
          standard.value (.number (.int i.toInt)) = standard.value json ∧
          standard.value (Envelope.toJson ⟨tag, .number (.int i.toInt)⟩) =
            standard.value json := by
  have hvalue : standard.value json = .integer (Handler.integerOfText text) :=
    value_of_integerType htag hj
  refine ⟨fun n hn hmin hmax => ?_, fun hout => ?_, fun i hi => ?_⟩
  · have hi : (Int64.ofInt n).toInt = n := Int64.toInt_ofInt_of_le hmin (by omega)
    refine ⟨Int64.ofInt n, hi, ?_⟩
    rw [hvalue, Handler.integerOfText_eq (hi.symm ▸ hn)]
  · rw [hvalue, Handler.integerOfText_eq_zero hout]
  · have hwrites : WritesAmidBlanks i.toInt text.toList := ⟨_, hi, writes_toString i.toInt⟩
    have hjson : standard.value json = .integer i := by
      rw [hvalue, Handler.integerOfText_eq hwrites]
    refine ⟨hjson, ?_, ?_⟩
    · rw [hjson, value_of_spellsInteger .bare]
    · rw [hjson, value_of_spellsInteger (.number htag (Envelope.ofJson?_toJson _))]

/-- The least integer with zeros and blanks, the first one that is too large, and a sign alone. -/
theorem value_of_boundTexts :
    standard.value (Envelope.toJson ⟨Tag.int64, .string "\u3000-009223372036854775808\t"⟩) =
        .integer Int64.minValue ∧
      standard.value (Envelope.toJson ⟨Tag.int64, .string "9223372036854775808"⟩) = .integer 0 ∧
      standard.value (Envelope.toJson ⟨Tag.int32, .string "+"⟩) = .integer 0 ∧
      standard.value (Envelope.toJson ⟨Tag.int32, .string " -7\n"⟩) =
        standard.value (.number (.int (-7))) := by
  have hnone (n : Int) : ¬ WritesAmidBlanks n ['+'] := by
    rw [writesAmidBlanks_iff_int?]
    nofun
  have hlarge (n : Int) (h : WritesAmidBlanks n "9223372036854775808".toList) :
      n = 9223372036854775808 := by
    have hread : int? (Blank.trim "9223372036854775808".toList) = some 9223372036854775808 := by
      decide
    exact Option.some_inj.1 ((writesAmidBlanks_iff_int?.1 h).symm.trans hread)
  have hpaddedMin : WritesAmidBlanks (-9223372036854775808)
      "\u3000-009223372036854775808\t".toList := writesAmidBlanks_iff_int?.2 (by decide)
  obtain ⟨i, hi, hleast⟩ := (value_of_integerText (.inr rfl) (Envelope.ofJson?_toJson _)).1 _
    hpaddedMin (Int.le_refl _) (by omega)
  have hmin : i = Int64.minValue := Int64.toInt_inj.1 hi
  have hpadded : Blank.Around (toString (-7 : Int64).toInt).toList " -7\n".toList :=
    ⟨[' '], ['\n'], rfl, List.all_eq_true.1 rfl, List.all_eq_true.1 rfl⟩
  refine ⟨hmin ▸ hleast, ?_, ?_, ?_⟩
  · exact (value_of_integerText (.inr rfl) (Envelope.ofJson?_toJson _)).2.1 fun n hn => by
      have := hlarge n hn
      omega
  · exact (value_of_integerText (.inl rfl) (Envelope.ofJson?_toJson _)).2.1 fun n hn =>
      absurd hn (hnone n)
  · exact ((value_of_integerText (.inl rfl) (Envelope.ofJson?_toJson _)).2.2 (-7) hpadded).2.1.symm

end Decoder

end GraphSON

end GraphClient
