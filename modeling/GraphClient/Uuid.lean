/-!
# UUIDs

A UUID is 128 bits. It is written as 32 hexadecimal digits in lower case, in groups of 8, 4, 4, 4
and 12 with hyphens between them. It is read in that form, in braces, after the mark `urn:uuid:` of
the name space of UUIDs, or as 32 digits without hyphens. A letter may be in either case, in the
digits and in the mark, as the scheme and the name space of a URN may.
-/

namespace GraphClient

/-- A universally unique identifier. -/
structure Uuid where
  bits : BitVec 128
  deriving DecidableEq, Repr, Inhabited

namespace Uuid

/-- The UUID without a set bit. -/
def nil : Uuid := ⟨0⟩

/-- The hexadecimal digit of a place; place 31 is the first digit. -/
def digit (id : Uuid) (place : Nat) : Char := Nat.digitChar (id.bits.toNat / Nat.pow 16 place % 16)

/-- The digits of `count` places, ending with the place `last`. -/
def group (id : Uuid) (count last : Nat) : List Char :=
  (List.range count).reverse.map fun i => id.digit (last + i)

/-- The groups of digits with a text between them. -/
def digitsWith (separator : List Char) (id : Uuid) : List Char :=
  id.group 8 24 ++ separator ++ id.group 4 20 ++ separator ++ id.group 4 16 ++ separator ++
    id.group 4 12 ++ separator ++ id.group 12 0

/-- The text with hyphens. -/
def text (id : Uuid) : String := String.ofList (id.digitsWith ['-'])

def hexDigit? (c : Char) : Option Nat :=
  if '0' ≤ c ∧ c ≤ '9' then some (c.toNat - '0'.toNat)
  else if 'a' ≤ c ∧ c ≤ 'f' then some (c.toNat - 'a'.toNat + 10)
  else if 'A' ≤ c ∧ c ≤ 'F' then some (c.toNat - 'A'.toNat + 10)
  else none

/-- The number that hexadecimal digits write, after a number already read. -/
def hexNumber? (n : Nat) : List Char → Option Nat
  | [] => some n
  | c :: rest => (hexDigit? c).bind fun d => hexNumber? (16 * n + d) rest

/-- 32 hexadecimal digits. -/
def ofSimple? (text : List Char) : Option Uuid :=
  if text.length = 32 then (hexNumber? 0 text).map fun n => ⟨BitVec.ofNat 128 n⟩ else none

/-- 32 hexadecimal digits in groups of 8, 4, 4, 4 and 12 with hyphens between them. -/
def ofHyphenated? (text : List Char) : Option Uuid :=
  if text.length = 36 ∧ [8, 13, 18, 23].all fun i => text[i]? == some '-' then
    ofSimple? (text.take 8 ++ (text.drop 9).take 4 ++ (text.drop 14).take 4 ++
      (text.drop 19).take 4 ++ text.drop 24)
  else none

/-- The mark of the name space of UUIDs. -/
def urn : List Char := ['u', 'r', 'n', ':', 'u', 'u', 'i', 'd', ':']

/-- A UUID in any of its written forms. -/
def ofChars? (text : List Char) : Option Uuid :=
  if text.length = 32 then ofSimple? text
  else if text.length = 36 then ofHyphenated? text
  else if text.length = 38 then
    if text.head? = some '\x7b' ∧ text.getLast? = some '\x7d' then
      ofHyphenated? ((text.drop 1).take 36)
    else none
  else if (text.take 9).map Char.toLower = urn then ofHyphenated? (text.drop 9)
  else none

def parse? (text : String) : Option Uuid := ofChars? text.toList

end Uuid

end GraphClient
