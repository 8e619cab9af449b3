import GraphClient.Json.Basic
import GraphClient.Number.Shortest

/-!
# Compact JSON text

A document without blanks, members in their order. In strings only the quote, the backslash and
the controls below U+0020 are escaped.
-/

namespace GraphClient.Json

/-- A hexadecimal digit in lower case. -/
def hexDigit (n : Nat) : Char := Nat.digitChar (n % 16)

/-- A character inside a string. -/
def escape (c : Char) : List Char :=
  if c = '"' then ['\\', '"']
  else if c = '\\' then ['\\', '\\']
  else if c = '\x08' then ['\\', 'b']
  else if c = '\x0c' then ['\\', 'f']
  else if c = '\n' then ['\\', 'n']
  else if c = '\r' then ['\\', 'r']
  else if c = '\t' then ['\\', 't']
  else if c.toNat < 0x20 then ['\\', 'u', '0', '0', hexDigit (c.toNat / 16), hexDigit c.toNat]
  else [c]

def writeString (text : String) : List Char := '"' :: text.toList.flatMap escape ++ ['"']

/-- A double with a point or an exponent mark always shown; what is not finite is null. -/
def writeDouble (x : Double) : List Char :=
  if !x.isFinite then ['n', 'u', 'l', 'l']
  else
    let text := x.text.toList
    if text.contains '.' then text else text ++ ['.', '0']

def writeNumber : Number → List Char
  | .int n => (toString n).toList
  | .float x => writeDouble x

mutual

/-- The characters of a document. -/
def write : Json → List Char
  | .null => ['n', 'u', 'l', 'l']
  | .bool true => ['t', 'r', 'u', 'e']
  | .bool false => ['f', 'a', 'l', 's', 'e']
  | .number n => writeNumber n
  | .string text => writeString text
  | .array items => '[' :: writeItems items ++ [']']
  | .object members => '\x7b' :: writeMembers members ++ ['\x7d']

def writeItems : List Json → List Char
  | [] => []
  | [item] => write item
  | item :: rest => write item ++ ',' :: writeItems rest

def writeMembers : List (String × Json) → List Char
  | [] => []
  | [(name, value)] => writeString name ++ ':' :: write value
  | (name, value) :: rest => writeString name ++ ':' :: write value ++ ',' :: writeMembers rest

end

/-- The text of a document. -/
def render (json : Json) : String := String.ofList json.write

end GraphClient.Json
