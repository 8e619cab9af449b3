import GraphClient.Message.Request
import Mathlib.Tactic.Common

/-!
# Credentials on the wire

The answer to a challenge holds the user name and the password with a NUL before each, in Base64.
The bytes are read back by regrouping the bits of the characters, and the texts by cutting the bytes
at their first two NULs, which are the ones that were put there unless the user name has its own.
-/

namespace GraphClient

namespace Base64

/-- The six bits that a character stands for. -/
def value? (c : Char) : Option Nat := alphabet.idxOf? c

/-- The bytes of characters in groups of four, as of RFC 4648: the last group may be padded, and its
bits that belong to no byte are zero. -/
def decodeChars? : List Char → Option (List UInt8)
  | [] => some []
  | [a, b, '=', '='] => do
    let n := (← value? a) * 64 + (← value? b)
    if n % 16 = 0 then some [UInt8.ofNat (n / 16)] else none
  | [a, b, c, '='] => do
    let n := ((← value? a) * 64 + (← value? b)) * 64 + (← value? c)
    if n % 4 = 0 then some [UInt8.ofNat (n / 1024), UInt8.ofNat (n / 4)] else none
  | a :: b :: c :: d :: rest => do
    let n := (((← value? a) * 64 + (← value? b)) * 64 + (← value? c)) * 64 + (← value? d)
    let bytes ← decodeChars? rest
    some (UInt8.ofNat (n / 65536) :: UInt8.ofNat (n / 256) :: UInt8.ofNat n :: bytes)
  | _ => none

/-- The bytes that a text encodes. -/
def decode? (text : String) : Option (List UInt8) := decodeChars? text.toList

lemma value?_character {n : Nat} (h : n < 64) : value? (character n) = some n := by
  have hall : ∀ m < 64, value? (character m) = some m := by decide +kernel
  exact hall n h

lemma character_ne_padding {n : Nat} (h : n < 64) : character n ≠ '=' := fun heq => by
  have hvalue : value? '=' = some n := heq ▸ value?_character h
  have hnone : value? '=' = none := by decide
  rw [hnone] at hvalue
  cases hvalue

lemma ofNat_eq_of_mod {n : Nat} {b : UInt8} (h : n % 256 = b.toNat) : UInt8.ofNat n = b := by
  rw [← UInt8.toNat_inj, UInt8.toNat_ofNat', h]

/-- Encoded bytes are read back, however many of them are left for the last group. -/
lemma decodeChars?_encodeBytes (bytes : List UInt8) :
    decodeChars? (encodeBytes bytes) = some bytes := by
  fun_induction encodeBytes bytes with
  | case1 => rfl
  | case2 a n =>
    have ha := a.toNat_lt
    have hjoin : n / 64 * 64 + n % 64 = n := by omega
    have hbyte : UInt8.ofNat (n / 16) = a := ofNat_eq_of_mod (by omega)
    rw [decodeChars?, value?_character (by omega), value?_character (by omega)]
    simp only [Option.bind_eq_bind, Option.bind_some, hjoin, hbyte]
    rw [if_pos (by omega)]
  | case3 a b n =>
    have ha := a.toNat_lt
    have hb := b.toNat_lt
    have hjoin : (n / 4096 * 64 + n / 64 % 64) * 64 + n % 64 = n := by omega
    have hfirst : UInt8.ofNat (n / 1024) = a := ofNat_eq_of_mod (by omega)
    have hsecond : UInt8.ofNat (n / 4) = b := ofNat_eq_of_mod (by omega)
    rw [decodeChars?, value?_character (by omega), value?_character (by omega),
      value?_character (by omega)]
    · simp only [Option.bind_eq_bind, Option.bind_some, hjoin, hfirst, hsecond]
      rw [if_pos (by omega)]
    · exact character_ne_padding (by omega)
  | case4 a b c rest n ih =>
    have ha := a.toNat_lt
    have hb := b.toNat_lt
    have hc := c.toNat_lt
    have hjoin : ((n / 262144 * 64 + n / 4096 % 64) * 64 + n / 64 % 64) * 64 + n % 64 = n := by
      omega
    have hfirst : UInt8.ofNat (n / 65536) = a := ofNat_eq_of_mod (by omega)
    have hsecond : UInt8.ofNat (n / 256) = b := ofNat_eq_of_mod (by omega)
    have hthird : UInt8.ofNat n = c := ofNat_eq_of_mod (by omega)
    rw [decodeChars?, value?_character (by omega), value?_character (by omega),
      value?_character (by omega), value?_character (by omega), ih]
    · simp only [Option.bind_eq_bind, Option.bind_some, hjoin, hfirst, hsecond, hthird]
    · exact fun _ hpad _ => character_ne_padding (by omega) hpad
    · exact fun hpad _ => character_ne_padding (by omega) hpad

lemma decode?_encode (bytes : ByteArray) : decode? (encode bytes) = some bytes.data.toList := by
  rw [decode?, encode, String.toList_ofList, decodeChars?_encodeBytes]

end Base64

namespace Utf8

/-- The bytes of a text. -/
def bytes (text : String) : List UInt8 := text.toUTF8.data.toList

lemma bytes_append (s t : String) : bytes (s ++ t) = bytes s ++ bytes t := by
  simp [bytes]

lemma bytes_inj {s t : String} : bytes s = bytes t ↔ s = t := by
  rw [bytes, bytes, Array.toList_inj, ← ByteArray.ext_iff, String.toUTF8_eq_toByteArray,
    String.toUTF8_eq_toByteArray, String.toByteArray_inj]

lemma zero_ne_ofNat {n : Nat} (h : 0 < n) (hlt : n < 256) : 0 ≠ UInt8.ofNat n := fun heq => by
  have hnat := congrArg UInt8.toNat heq
  rw [UInt8.toNat_ofNat', UInt8.toNat_zero] at hnat
  omega

lemma zero_notMem_utf8EncodeChar {c : Char} (h : c ≠ '\x00') :
    0 ∉ String.utf8EncodeChar c := by
  have hpos : 0 < c.val.toNat := Nat.pos_of_ne_zero fun hzero =>
    h (Char.ext (UInt32.toNat_inj.1 hzero))
  -- the bytes of a longer encoding all have their upper bits set
  unfold String.utf8EncodeChar
  dsimp only
  split_ifs <;> simp only [List.mem_cons, List.not_mem_nil, or_false, not_or]
  · exact zero_ne_ofNat hpos (by omega)
  all_goals
    and_intros
    all_goals exact zero_ne_ofNat (by omega) (by omega)

/-- Only a NUL is encoded with a zero byte. -/
lemma zero_notMem_bytes {text : String} (h : '\x00' ∉ text.toList) : 0 ∉ bytes text := by
  have hbytes : bytes text = text.toList.flatMap String.utf8EncodeChar := by
    rw [bytes, String.toUTF8_eq_toByteArray, ← String.utf8Encode_toList, List.utf8Encode,
      List.toList_data_toByteArray]
  rw [hbytes, List.mem_flatMap]
  rintro ⟨c, hc, hzero⟩
  exact zero_notMem_utf8EncodeChar (fun heq => h (heq ▸ hc)) hzero

end Utf8

namespace Credentials

/-- The bytes before the first NUL and the bytes after it. -/
def cutNul? : List UInt8 → Option (List UInt8 × List UInt8)
  | [] => none
  | b :: rest =>
    if b = 0 then some ([], rest)
    else (cutNul? rest).map fun (before, after) => (b :: before, after)

/-- The parts of an answer: what is before its first NUL, between this and the second one, and
behind that. -/
def parts? (answer : List UInt8) : Option (List UInt8 × List UInt8 × List UInt8) := do
  let (identity, rest) ← cutNul? answer
  let (username, password) ← cutNul? rest
  some (identity, username, password)

lemma cutNul?_append {before after : List UInt8} (h : 0 ∉ before) :
    cutNul? (before ++ 0 :: after) = some (before, after) := by
  induction before with
  | nil => rfl
  | cons b before ih =>
    rw [List.mem_cons, not_or] at h
    rw [List.cons_append, cutNul?, if_neg (Ne.symm h.1), ih h.2]
    rfl

lemma parts?_append {username password : List UInt8} (h : 0 ∉ username) :
    parts? (0 :: username ++ 0 :: password) = some ([], username, password) := by
  have hfirst : cutNul? (0 :: username ++ 0 :: password) = some ([], username ++ 0 :: password) :=
    rfl
  rw [parts?, hfirst, Option.bind_eq_bind, Option.bind_some]
  dsimp only
  rw [cutNul?_append h]
  rfl

lemma decode?_sasl_eq (c : Credentials) : Base64.decode? c.sasl =
    some (0 :: Utf8.bytes c.username ++ 0 :: Utf8.bytes c.password) := by
  have hnul : Utf8.bytes "\x00" = [0] := by rfl
  change Base64.decode? (Base64.encode _) = _
  rw [Base64.decode?_encode]
  change some (Utf8.bytes _) = _
  simp [Utf8.bytes_append, hnul]

/-- From the answer to a challenge the bytes that it was made of are decoded, and the first two NULs
cut them into the user name and the password, if the user name has no NUL. So no two credentials
whose user names have none give the same answer, whatever the passwords are. -/
theorem parts?_of_sasl (c : Credentials) (hnul : '\x00' ∉ c.username.toList) :
    Base64.decode? c.sasl =
        some (0 :: Utf8.bytes c.username ++ 0 :: Utf8.bytes c.password) ∧
      (Base64.decode? c.sasl).bind parts? =
        some ([], Utf8.bytes c.username, Utf8.bytes c.password) ∧
      ∀ d : Credentials, '\x00' ∉ d.username.toList → d.sasl = c.sasl → d = c := by
  have hparts (d : Credentials) (h : '\x00' ∉ d.username.toList) :
      (Base64.decode? d.sasl).bind parts? =
        some ([], Utf8.bytes d.username, Utf8.bytes d.password) := by
    rw [decode?_sasl_eq, Option.bind_some,
      parts?_append (Utf8.zero_notMem_bytes h)]
  refine ⟨decode?_sasl_eq c, hparts c hnul, fun d hd hsasl => ?_⟩
  have hsame := hparts d hd
  rw [hsasl, hparts c hnul, Option.some_inj, Prod.mk.injEq, Prod.mk.injEq, Utf8.bytes_inj,
    Utf8.bytes_inj] at hsame
  obtain ⟨-, husername, hpassword⟩ := hsame
  cases c
  cases d
  cases husername
  cases hpassword
  rfl

/-- A password may have a NUL, which is told from the one before it by its place. -/
theorem parts?_of_nulPassword :
    '\x00' ∉ "é".toList ∧ (mk "é" "\x00").sasl = "AMOpAAA=" ∧
      Base64.decode? "AMOpAAA=" = some [0, 195, 169, 0, 0] ∧
      (Base64.decode? "AMOpAAA=").bind parts? = some ([], [195, 169], [0]) ∧
      (mk "é" "").sasl ≠ "AMOpAAA=" := by
  have hnul : '\x00' ∉ "é".toList := by decide
  have hsasl : (mk "é" "\x00").sasl = "AMOpAAA=" := by rfl
  have hname : Utf8.bytes "é" = [195, 169] := by rfl
  have hpassword : Utf8.bytes "\x00" = [0] := by rfl
  obtain ⟨hdecode, hparts, hother⟩ := parts?_of_sasl (mk "é" "\x00") hnul
  rw [hsasl, hname, hpassword] at hdecode hparts
  refine ⟨hnul, hsasl, hdecode, hparts, fun hsame => ?_⟩
  exact absurd (hother (mk "é" "") hnul (hsame.trans hsasl.symm)) (by decide)

end Credentials

end GraphClient
