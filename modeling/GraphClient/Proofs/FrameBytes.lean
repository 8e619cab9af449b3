import GraphClient.Proofs.RequestText

/-!
# Frames in texts and in bytes

A frame comes as a text, as the bytes of a text, or as these behind the name of the type. All three
are read alike, unless the text itself begins like that name. The name is taken off any bytes only
where it is complete, and nothing beyond the end of the bytes is looked at for it.
-/

namespace GraphClient.Response

variable {bytes : ByteArray}

/-- The bytes from one position up to another, if they lie within. -/
def slice? (bytes : ByteArray) (start stop : Nat) : Option ByteArray :=
  if start ≤ stop ∧ stop ≤ bytes.size then some (bytes.extract start stop) else none

/-- Bytes without the name of the type before them, as found by positions: the first byte says how
many bytes the name after it has. There is no result if a slice does not lie within the bytes. -/
def stripAt? (bytes : ByteArray) : Option ByteArray :=
  match bytes.data.toList.head? with
  | none => some bytes
  | some length =>
    if length.toNat = mimeType.utf8ByteSize ∧ length.toNat < bytes.size then do
      let name ← slice? bytes 1 (1 + length.toNat)
      if name.data.toList = mimeType.toUTF8.data.toList then
        slice? bytes (1 + length.toNat) bytes.size
      else some bytes
    else some bytes

/-- Readings that all give the same response or all fail. -/
def Agree (readings : List (Except TransportError Response)) : Prop :=
  (∃ response, ∀ reading ∈ readings, reading = .ok response) ∨
    ∀ reading ∈ readings, ∃ e, reading = .error e

/-- The text that is the name of the type with its length before it. -/
def headerText : String := "!" ++ mimeType

lemma toUTF8_headerText : headerText.toUTF8 = mimeHeader := by rfl

lemma toList_mimeHeader : mimeHeader.data.toList = 33 :: mimeType.toUTF8.data.toList := by rfl

lemma size_mimeHeader : mimeHeader.size = 34 := by rfl

/-- The name of the type is all that is ever taken off. -/
lemma stripHeader_cases (bytes : ByteArray) :
    (∃ rest, bytes = mimeHeader ++ rest) ∨
      (¬mimeHeader.data.toList <+: bytes.data.toList ∧ stripHeader bytes = bytes) := by
  by_cases h : mimeHeader.data.toList <+: bytes.data.toList
  · obtain ⟨rest, hrest⟩ := h
    refine .inl ⟨⟨rest.toArray⟩, ?_⟩
    rw [ByteArray.ext_iff, ← Array.toList_inj, ByteArray.data_append, Array.toList_append, hrest]
  · exact .inr ⟨h, if_neg h⟩

lemma ne_append_of_not_isPrefix (h : ¬mimeHeader.data.toList <+: bytes.data.toList)
    (rest : ByteArray) : bytes ≠ mimeHeader ++ rest := by
  rintro rfl
  rw [ByteArray.data_append, Array.toList_append] at h
  exact h (List.prefix_append _ _)

lemma slice?_eq_some {start stop : Nat} (h : start ≤ stop) (hstop : stop ≤ bytes.size) :
    slice? bytes start stop = some (bytes.extract start stop) :=
  if_pos ⟨h, hstop⟩

lemma toList_extract (bytes : ByteArray) (start stop : Nat) :
    (bytes.extract start stop).data.toList =
      (bytes.data.toList.drop start).take (stop - start) := by
  rw [ByteArray.data_extract, Array.toList_extract, List.extract_eq_take_drop]

lemma stripAt?_append (rest : ByteArray) : stripAt? (mimeHeader ++ rest) = some rest := by
  have hlist : (mimeHeader ++ rest).data.toList =
      33 :: (mimeType.toUTF8.data.toList ++ rest.data.toList) := by
    rw [ByteArray.data_append, Array.toList_append, toList_mimeHeader, List.cons_append]
  have hsize : (mimeHeader ++ rest).size = 34 + rest.size := by
    rw [ByteArray.size_append, size_mimeHeader]
  have hname : ((mimeHeader ++ rest).extract 1 34).data.toList = mimeType.toUTF8.data.toList := by
    rw [toList_extract, hlist, List.drop_one, List.tail_cons]
    exact List.take_left' rfl
  have hrest : (mimeHeader ++ rest).extract 34 (34 + rest.size) = rest :=
    ByteArray.extract_append_eq_right rfl (by rw [size_mimeHeader])
  rw [stripAt?, hlist]
  dsimp only [List.head?_cons]
  rw [if_pos ⟨rfl, by rw [hsize]; change 33 < _; omega⟩]
  change (slice? (mimeHeader ++ rest) 1 34).bind _ = _
  rw [slice?_eq_some (by omega) (by omega), Option.bind_some, if_pos hname, hsize]
  change slice? (mimeHeader ++ rest) 34 _ = _
  rw [slice?_eq_some (by omega) (by omega), hrest]

/-- A name that is found after its length is all of the header. -/
lemma isPrefix_of_name {length : UInt8} (hhead : bytes.data.toList.head? = some length)
    (hlength : length.toNat = mimeType.utf8ByteSize)
    (hname : (bytes.extract 1 (1 + length.toNat)).data.toList = mimeType.toUTF8.data.toList) :
    mimeHeader.data.toList <+: bytes.data.toList := by
  obtain ⟨tail, htail⟩ := List.head?_eq_some_iff.1 hhead
  have h33 : length = 33 := UInt8.toNat_inj.1 hlength
  rw [toList_extract, htail, List.drop_one, List.tail_cons] at hname
  rw [toList_mimeHeader, htail, h33, ← hname]
  exact List.prefix_cons_inj 33 |>.2 (List.take_prefix _ _)

/-- Every slice lies within the bytes. -/
lemma stripAt?_eq_some (bytes : ByteArray) : stripAt? bytes = some (stripHeader bytes) := by
  rcases stripHeader_cases bytes with ⟨rest, rfl⟩ | ⟨hheader, hstrip⟩
  · rw [stripAt?_append, stripHeader_mimeHeader]
  · rw [hstrip, stripAt?]
    split
    · rfl
    · rename_i length hhead
      split
      · rename_i hlength
        rw [slice?_eq_some (by omega) (by omega), Option.bind_eq_bind, Option.bind_some,
          if_neg fun hname => hheader (isPrefix_of_name hhead hlength.1 hname)]
      · rfl

lemma ofSymbols_ne_emptyFrame (input : List Symbol) : ofSymbols input ≠ .error emptyFrame := by
  rw [ofSymbols]
  split <;> simp [malformedFrame, emptyFrame]

lemma isEmpty_bytes_iff : bytes.isEmpty = true ↔ bytes = .empty := by
  rw [ByteArray.isEmpty, beq_iff_eq, ByteArray.size_eq_zero_iff]

/-- No bytes are left of none, and of the name of the type alone. -/
lemma stripHeader_eq_empty_iff :
    stripHeader bytes = .empty ↔ bytes = .empty ∨ bytes = mimeHeader := by
  rcases stripHeader_cases bytes with ⟨rest, rfl⟩ | ⟨hheader, hstrip⟩
  · rw [stripHeader_mimeHeader]
    constructor
    · rintro rfl
      exact .inr ByteArray.append_empty
    · rintro (h | h)
      · exact (ByteArray.append_eq_empty_iff.1 h).2
      · exact ByteArray.append_right_inj mimeHeader |>.1 (h.trans ByteArray.append_empty.symm)
  · rw [hstrip, iff_self_or]
    rintro rfl
    exact absurd (List.prefix_refl _) hheader

/-- A frame is called empty for no other reason than that no bytes are left. -/
lemma ofBytes_eq_emptyFrame_iff :
    ofBytes bytes = .error emptyFrame ↔ stripHeader bytes = .empty := by
  rw [ofBytes]
  split
  · rename_i h
    exact iff_of_true rfl (isEmpty_bytes_iff.1 h)
  · rename_i h
    exact iff_of_false (ofSymbols_ne_emptyFrame _) fun hempty => h (isEmpty_bytes_iff.2 hempty)

/-- What is left after the name of the type has been taken off is read as the text that it encodes,
if there is any. -/
lemma ofBytes_eq_ofText {text : String} (h : stripHeader bytes = text.toUTF8) (hne : text ≠ "") :
    ofBytes bytes = ofText text := by
  have hbytes : ¬text.toUTF8.isEmpty = true := fun hempty =>
    hne (String.toByteArray_inj.1 (isEmpty_bytes_iff.1 hempty))
  rw [ofBytes, h, if_neg hbytes, Utf8.symbols_toUTF8, ofText]

/-- Bytes of a text that begin with the name of the type are those of a text that does. -/
lemma headerText_isPrefix {text : String}
    (h : mimeHeader.data.toList <+: text.toUTF8.data.toList) :
    headerText.toList <+: text.toList := by
  obtain ⟨rest, hrest⟩ := h
  refine List.isPrefix_of_utf8Encode_append_eq_utf8Encode ⟨rest.toArray⟩ ?_
  rw [String.utf8Encode_toList, String.utf8Encode_toList, ← String.toUTF8_eq_toByteArray,
    ← String.toUTF8_eq_toByteArray, toUTF8_headerText, ByteArray.ext_iff, ← Array.toList_inj,
    ByteArray.data_append, Array.toList_append, hrest]

lemma agree_of_stripHeader {text : String} (h : stripHeader text.toUTF8 = text.toUTF8) :
    Agree [ofText text, ofBytes text.toUTF8, ofBytes (mimeHeader ++ text.toUTF8)] := by
  by_cases hne : text = ""
  · subst hne
    have htext : ofText "" = .error malformedFrame := by rfl
    have hplain : ofBytes "".toUTF8 = .error emptyFrame := ofBytes_eq_emptyFrame_iff.2 h
    have hnamed : ofBytes (mimeHeader ++ "".toUTF8) = .error emptyFrame :=
      ofBytes_eq_emptyFrame_iff.2 (stripHeader_mimeHeader _)
    rw [htext, hplain, hnamed]
    exact .inr (by simp)
  · rw [ofBytes_eq_ofText h hne, ofBytes_eq_ofText (stripHeader_mimeHeader _) hne]
    cases ofText text with
    | ok response => exact .inl ⟨response, by simp⟩
    | error e => exact .inr (by simp)

/-- Any text that does not itself begin with the name of the type and its length is read alike in
all three ways. Of any bytes at all the name is taken off exactly where they begin with the whole of
it, without a look beyond their end, and they are called an empty frame exactly if nothing is left. -/
theorem agree_ofText_ofBytes :
    (∀ text : String, ¬headerText.toList <+: text.toList →
      Agree [ofText text, ofBytes text.toUTF8, ofBytes (mimeHeader ++ text.toUTF8)]) ∧
      ∀ bytes : ByteArray, stripAt? bytes = some (stripHeader bytes) ∧
        (∀ rest, bytes = mimeHeader ++ rest → stripHeader bytes = rest) ∧
        ((∀ rest, bytes ≠ mimeHeader ++ rest) → stripHeader bytes = bytes) ∧
        (ofBytes bytes = .error emptyFrame ↔ bytes = .empty ∨ bytes = mimeHeader) := by
  refine ⟨fun text hheader => ?_, fun bytes => ⟨stripAt?_eq_some bytes, ?_, fun hne => ?_, ?_⟩⟩
  · exact agree_of_stripHeader (if_neg fun hbytes => hheader (headerText_isPrefix hbytes))
  · rintro rest rfl
    exact stripHeader_mimeHeader rest
  · rcases stripHeader_cases bytes with ⟨rest, hrest⟩ | ⟨-, hstrip⟩
    · exact absurd hrest (hne rest)
    · exact hstrip
  · rw [ofBytes_eq_emptyFrame_iff, stripHeader_eq_empty_iff]

/-- The name of the type is taken off a frame, but not one of the same length. -/
theorem agree_of_noContentFrame :
    ¬headerText.toList <+: "[null,[204]]".toList ∧
      Agree [ofText "[null,[204]]", ofBytes "[null,[204]]".toUTF8,
        ofBytes (mimeHeader ++ "[null,[204]]".toUTF8)] ∧
      (∀ rest, "!application/vnd.gremlin-v2.0+json".toUTF8 ≠ mimeHeader ++ rest) ∧
      stripHeader "!application/vnd.gremlin-v2.0+json".toUTF8 =
        "!application/vnd.gremlin-v2.0+json".toUTF8 := by
  have hheader : ¬headerText.toList <+: "[null,[204]]".toList := by decide
  have hother : ∀ rest, "!application/vnd.gremlin-v2.0+json".toUTF8 ≠ mimeHeader ++ rest :=
    ne_append_of_not_isPrefix (by decide)
  obtain ⟨htext, hbytes⟩ := agree_ofText_ofBytes
  obtain ⟨-, -, hkeep, -⟩ := hbytes "!application/vnd.gremlin-v2.0+json".toUTF8
  exact ⟨hheader, htext _ hheader, hother, hkeep hother⟩

end GraphClient.Response
