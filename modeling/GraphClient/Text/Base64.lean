/-!
# Base64

The standard alphabet with padding: three bytes become four characters.
-/

namespace GraphClient.Base64

def alphabet : List Char :=
  "ABCDEFGHIJKLMNOPQRSTUVWXYZabcdefghijklmnopqrstuvwxyz0123456789+/".toList

/-- The character of a six-bit number. -/
def character (n : Nat) : Char := alphabet.getD n 'A'

/-- Bytes in groups of three; a last group of one or two bytes is padded. -/
def encodeBytes : List UInt8 → List Char
  | [] => []
  | [a] =>
    let n := a.toNat * 16
    [character (n / 64), character (n % 64), '=', '=']
  | [a, b] =>
    let n := (a.toNat * 256 + b.toNat) * 4
    [character (n / 4096), character (n / 64 % 64), character (n % 64), '=']
  | a :: b :: c :: rest =>
    let n := (a.toNat * 256 + b.toNat) * 256 + c.toNat
    character (n / 262144) :: character (n / 4096 % 64) :: character (n / 64 % 64) ::
      character (n % 64) :: encodeBytes rest

def encode (bytes : ByteArray) : String := String.ofList (encodeBytes bytes.data.toList)

end GraphClient.Base64
