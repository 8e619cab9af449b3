/-!
# UTF-8

Bytes as the characters they encode. A byte that begins no character is kept apart, so that a
reader can refuse it or pass over it.
-/

namespace GraphClient

/-- A character of a byte sequence, or `none` for a byte that belongs to no character. -/
abbrev Symbol := Option Char

namespace Utf8

/-- The symbols from a position on. -/
def symbolsFrom (bytes : ByteArray) (position : Nat) : List Symbol :=
  if _ : position < bytes.size then
    match bytes.utf8DecodeChar? position with
    | some c => some c :: symbolsFrom bytes (position + c.utf8Size)
    | none => none :: symbolsFrom bytes (position + 1)
  else []
termination_by bytes.size - position
decreasing_by
  all_goals
    have := Char.utf8Size_pos
    grind

def symbols (bytes : ByteArray) : List Symbol := symbolsFrom bytes 0

theorem symbolsFrom_append_utf8Encode (start : ByteArray) (text : List Char) :
    symbolsFrom (start ++ text.utf8Encode) start.size = text.map some := by
  induction text generalizing start with
  | nil => rw [symbolsFrom]; simp
  | cons c rest ih =>
    have decoded : (start ++ (c :: rest).utf8Encode).utf8DecodeChar? start.size = some c := by
      rw [ByteArray.utf8DecodeChar?_eq_utf8DecodeChar?_extract, ByteArray.size_append,
        ByteArray.extract_append_eq_right rfl rfl]
      simp
    have inside : start.size < (start ++ (c :: rest).utf8Encode).size :=
      ByteArray.lt_size_of_isSome_utf8DecodeChar? (by simp [decoded])
    have next := ih (start ++ [c].utf8Encode)
    have size : ([c].utf8Encode).size = c.utf8Size := by simp [List.utf8Encode]
    rw [ByteArray.append_assoc, ← List.utf8Encode_cons, ByteArray.size_append, size] at next
    rw [symbolsFrom, dif_pos inside, decoded]
    simp only [next, List.map_cons]

end Utf8

namespace Symbol

def ofString (text : String) : List Symbol := text.toList.map some

end Symbol

/-- The bytes of a text hold its characters and no stray byte. -/
theorem Utf8.symbols_toUTF8 (text : String) :
    symbols text.toUTF8 = Symbol.ofString text := by
  have h := symbolsFrom_append_utf8Encode .empty text.toList
  rw [String.utf8Encode_toList] at h
  simpa [symbols, Symbol.ofString] using h

end GraphClient
