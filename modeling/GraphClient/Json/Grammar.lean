import GraphClient.Text.Utf8

/-!
# JSON grammar

What a text says by the grammar of RFC 8259 alone: numbers as they are written, strings that may
fail to be text, members in their order with repetitions, and no limit on nesting. Each reader
gives what is left of its input with its result.
-/

namespace GraphClient.Json

/-- A number as it is written. The exponent has a sign, true for minus, and digits. -/
structure NumberText where
  negative : Bool
  whole : List Char
  fraction : Option (List Char)
  exponent : Option (Bool × List Char)
  deriving DecidableEq, Repr, Inhabited

/-- A text read by the grammar. A string is `none` if what it holds is not Unicode text. -/
inductive Raw where
  | null
  | bool (b : Bool)
  | number (n : NumberText)
  | string (text : Option String)
  | array (items : List Raw)
  | object (members : List (Option String × Raw))
  deriving Repr, Inhabited

namespace Grammar

def isBlank (s : Symbol) : Bool := s == ' ' || s == '\t' || s == '\n' || s == '\r'

def dropBlanks (input : List Symbol) : List Symbol := input.dropWhile isBlank

def isDigit (s : Symbol) : Bool := s.any Char.isDigit

/-- The digits at the start and what follows them. -/
def digits (input : List Symbol) : List Char × List Symbol :=
  ((input.takeWhile isDigit).filterMap id, input.dropWhile isDigit)

/-- Digits before the point: a zero alone or digits that do not begin with zero. -/
def whole? (input : List Symbol) : Option (List Char × List Symbol) :=
  match digits input with
  | ([], _) => none
  | (['0'], rest) => some (['0'], rest)
  | ('0' :: _, _) => none
  | (ds, rest) => some (ds, rest)

def someDigits? (input : List Symbol) : Option (List Char × List Symbol) :=
  match digits input with
  | ([], _) => none
  | (ds, rest) => some (ds, rest)

def fraction? (input : List Symbol) : Option (Option (List Char) × List Symbol) :=
  match input with
  | some '.' :: rest => (someDigits? rest).map fun (ds, rest) => (some ds, rest)
  | _ => some (none, input)

def exponentSign (input : List Symbol) : Bool × List Symbol :=
  match input with
  | some '-' :: rest => (true, rest)
  | some '+' :: rest => (false, rest)
  | _ => (false, input)

def exponent? (input : List Symbol) : Option (Option (Bool × List Char) × List Symbol) :=
  match input with
  | some 'e' :: rest | some 'E' :: rest =>
    let (negative, rest) := exponentSign rest
    (someDigits? rest).map fun (ds, rest) => (some (negative, ds), rest)
  | _ => some (none, input)

def number? (input : List Symbol) : Option (NumberText × List Symbol) := do
  let (negative, input) := match input with
    | some '-' :: rest => (true, rest)
    | _ => (false, input)
  let (whole, input) ← whole? input
  let (fraction, input) ← fraction? input
  let (exponent, input) ← exponent? input
  some (⟨negative, whole, fraction, exponent⟩, input)

/-- A piece of a string: a character, a UTF-16 unit given by an escape, or a stray byte. -/
inductive StringPiece where
  | char (c : Char)
  | unit (n : Nat)
  | stray
  deriving DecidableEq, Repr

def hexDigit? (s : Symbol) : Option Nat :=
  s.bind fun c =>
    if '0' ≤ c ∧ c ≤ '9' then some (c.toNat - '0'.toNat)
    else if 'a' ≤ c ∧ c ≤ 'f' then some (c.toNat - 'a'.toNat + 10)
    else if 'A' ≤ c ∧ c ≤ 'F' then some (c.toNat - 'A'.toNat + 10)
    else none

def unit? (a b c d : Symbol) : Option Nat := do
  let a ← hexDigit? a
  let b ← hexDigit? b
  let c ← hexDigit? c
  let d ← hexDigit? d
  some (((a * 16 + b) * 16 + c) * 16 + d)

/-- The character of an escape of one letter. -/
def shortEscape? (c : Char) : Option Char :=
  match c with
  | '"' => some '"'
  | '\\' => some '\\'
  | '/' => some '/'
  | 'b' => some '\x08'
  | 'f' => some '\x0c'
  | 'n' => some '\n'
  | 'r' => some '\r'
  | 't' => some '\t'
  | _ => none

/-- The pieces up to the closing quote. -/
def pieces? : List Symbol → Option (List StringPiece × List Symbol)
  | [] => none
  | some '"' :: rest => some ([], rest)
  | some '\\' :: some 'u' :: a :: b :: c :: d :: rest => do
    let n ← unit? a b c d
    let (ps, rest) ← pieces? rest
    some (.unit n :: ps, rest)
  | some '\\' :: s :: rest => do
    let c ← s.bind shortEscape?
    let (ps, rest) ← pieces? rest
    some (.char c :: ps, rest)
  | some c :: rest =>
    if c = '\\' ∨ c.toNat < 0x20 then none
    else (pieces? rest).map fun (ps, rest) => (.char c :: ps, rest)
  | none :: rest => (pieces? rest).map fun (ps, rest) => (.stray :: ps, rest)

def isHigh (n : Nat) : Bool := 0xd800 ≤ n && n ≤ 0xdbff

def isLow (n : Nat) : Bool := 0xdc00 ≤ n && n ≤ 0xdfff

/-- The characters of the pieces, if every surrogate is paired and no byte is stray. -/
def join? : List StringPiece → Option (List Char)
  | [] => some []
  | .char c :: rest => (join? rest).map (c :: ·)
  | .stray :: _ => none
  | .unit n :: rest =>
    if isHigh n then
      match rest with
      | .unit m :: rest =>
        if isLow m then
          (join? rest).map (Char.ofNat (0x10000 + (n - 0xd800) * 0x400 + (m - 0xdc00)) :: ·)
        else none
      | _ => none
    else if isLow n then none
    else (join? rest).map (Char.ofNat n :: ·)

/-- The rest of a string after its opening quote. -/
def string? (input : List Symbol) : Option (Option String × List Symbol) :=
  (pieces? input).map fun (ps, rest) => ((join? ps).map String.ofList, rest)

/-- The input after a word. -/
def word? (word : List Char) (input : List Symbol) : Option (List Symbol) :=
  if word.map some <+: input then some (input.drop word.length) else none

mutual

/-- A value, with blanks before it. -/
def value? : (fuel : Nat) → List Symbol → Option (Raw × List Symbol)
  | 0, _ => none
  | fuel + 1, input =>
    match dropBlanks input with
    | some 'n' :: rest => (word? ['u', 'l', 'l'] rest).map fun rest => (.null, rest)
    | some 't' :: rest => (word? ['r', 'u', 'e'] rest).map fun rest => (.bool true, rest)
    | some 'f' :: rest => (word? ['a', 'l', 's', 'e'] rest).map fun rest => (.bool false, rest)
    | some '"' :: rest => (string? rest).map fun (text, rest) => (.string text, rest)
    | some '[' :: rest =>
      match dropBlanks rest with
      | some ']' :: rest => some (.array [], rest)
      | rest => (items? fuel rest).map fun (items, rest) => (.array items, rest)
    | some '\x7b' :: rest =>
      match dropBlanks rest with
      | some '\x7d' :: rest => some (.object [], rest)
      | rest => (members? fuel rest).map fun (members, rest) => (.object members, rest)
    | input => (number? input).map fun (n, rest) => (.number n, rest)

/-- One or more values up to the closing bracket. -/
def items? : (fuel : Nat) → List Symbol → Option (List Raw × List Symbol)
  | 0, _ => none
  | fuel + 1, input => do
    let (item, rest) ← value? fuel input
    match dropBlanks rest with
    | some ',' :: rest => (items? fuel rest).map fun (items, rest) => (item :: items, rest)
    | some ']' :: rest => some ([item], rest)
    | _ => none

/-- One or more members up to the closing brace. -/
def members? : (fuel : Nat) → List Symbol → Option (List (Option String × Raw) × List Symbol)
  | 0, _ => none
  | fuel + 1, input =>
    match dropBlanks input with
    | some '"' :: rest => do
      let (name, rest) ← string? rest
      match dropBlanks rest with
      | some ':' :: rest =>
        let (value, rest) ← value? fuel rest
        match dropBlanks rest with
        | some ',' :: rest =>
          (members? fuel rest).map fun (members, rest) => ((name, value) :: members, rest)
        | some '\x7d' :: rest => some ([(name, value)], rest)
        | _ => none
      | _ => none
    | _ => none

end

end Grammar

/-- A whole input as one value. A value inside another costs two steps at most for each symbol
before it, so the fuel never runs out. -/
def Raw.ofSymbols? (input : List Symbol) : Option Raw :=
  match Grammar.value? (2 * input.length + 2) input with
  | some (raw, rest) => if (Grammar.dropBlanks rest).isEmpty then some raw else none
  | none => none

end GraphClient.Json
