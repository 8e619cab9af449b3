import GraphClient.Json.Basic
import GraphClient.Json.Grammar
import GraphClient.Number.Decimal

/-!
# Reading JSON

A text read by the grammar becomes a document within limits: strings are text, numbers are finite
and nesting has a bound. A shape says which members of an object are read at all; the others have
only the grammar to satisfy.
-/

namespace GraphClient.Json

namespace NumberText

/-- The leading digits that fit 64 bits after a number, and the digits left over. -/
def leading (n : Nat) : List Char → Nat × List Char
  | [] => (n, [])
  | d :: ds =>
    let next := 10 * n + (Decimal.digit? d).getD 0
    if next < Nat.pow 2 64 then leading next ds else (n, d :: ds)

/-- The double nearest to a power of ten. -/
def powerOfTen (n : Nat) : Double := Double.nearest false (Nat.pow 10 n) 1

/-- A significand times a power of ten, rounded once for the significand, once for the power and
once for each product or quotient; `none` if that is infinite. -/
def scaled? (significand : Nat) (exponent : Int) : Option Double :=
  let x := Double.ofNat significand
  if 308 < exponent then if significand = 0 then some (Double.zero false) else none
  else if 0 ≤ exponent then
    let y := x.product (powerOfTen exponent.natAbs)
    if y.isInfinite then none else some y
  else if -308 ≤ exponent then some (x.quotient (powerOfTen exponent.natAbs))
  else if -616 ≤ exponent then
    some ((x.quotient (powerOfTen 308)).quotient (powerOfTen (exponent.natAbs - 308)))
  else some (Double.zero false)

/-- The magnitude of a number with a fraction, an exponent or too many digits. Only the leading
digits that fit 64 bits count, those of the fraction following those before the point. -/
def magnitude? (n : NumberText) : Option Double :=
  let (significand, dropped) := leading 0 n.whole
  let fraction := n.fraction.getD []
  let (significand, left) := leading significand fraction
  let exponent : Int := dropped.length - (fraction.length - left.length : Nat)
  match n.exponent with
  | none => scaled? significand exponent
  | some (negative, digits) =>
    let (power, beyond) := leading 0 digits
    if beyond.isEmpty ∧ power < Nat.pow 2 31 then
      scaled? significand (if negative then exponent - power else exponent + power)
    else if significand ≠ 0 ∧ negative = false then none
    else some (Double.zero false)

/-- The number written, if a double or a 64-bit integer holds it. -/
def toNumber? (n : NumberText) : Option Number :=
  let (whole, beyond) := leading 0 n.whole
  if n.fraction.isNone ∧ n.exponent.isNone ∧ beyond.isEmpty then
    if n.negative = false then some (.int whole)
    else if whole ≠ 0 ∧ whole ≤ Nat.pow 2 63 then some (.int (-whole))
    else some (.float (Double.ofNat whole).negate)
  else n.magnitude?.map fun x => .float (if n.negative then x.negate else x)

end NumberText

/-- What a reader expects of a document: anything, an object with these members and no others of
interest (or an array of their values in order), an object used as a map, or an array. The values
of a map have to be admitted, even those that a later member of the same name replaces. -/
inductive Shape where
  | any
  | record (fields : List (String × Shape))
  | map (values : Shape) (admits : Json → Bool)
  | list (items : Shape)

namespace Shape

/-- The members of an object of this shape, as they are written: a record repeats no name, and a
map has admitted values. -/
def admitsMembers (shape : Shape) (members : List (String × Json)) : Bool :=
  match shape with
  | .record _ => (members.map Prod.fst).Nodup
  | .map _ admits => members.all fun (_, value) => admits value
  | _ => true

/-- The shape of the item at a position, or `none` where there must be none. -/
def item? (shape : Shape) (position : Nat) : Option Shape :=
  match shape with
  | .record fields => fields[position]?.map Prod.snd
  | .list items => some items
  | _ => some .any

/-- The shape of the member with a name, or `none` for a member that is passed over. -/
def member? (shape : Shape) (name : String) : Option Shape :=
  match shape with
  | .record fields => List.lookup name fields
  | .map values _ => some values
  | _ => some .any

end Shape

namespace Raw

mutual

/-- The document of a shape, with at most `depth` arrays and objects inside one another. -/
def read? (shape : Shape) (depth : Nat) : Raw → Option Json
  | .null => some .null
  | .bool b => some (.bool b)
  | .number n => n.toNumber?.map .number
  | .string text => text.map .string
  | .array items =>
    match depth with
    | 0 => none
    | depth + 1 => (readItems? shape depth 0 items).map .array
  | .object members =>
    match depth with
    | 0 => none
    | depth + 1 => do
      let pairs ← readMembers? shape depth members
      if shape.admitsMembers pairs then some (.object (Entries.ofList pairs)) else none

def readItems? (shape : Shape) (depth position : Nat) : List Raw → Option (List Json)
  | [] => some []
  | raw :: rest => do
    let item ← read? (← shape.item? position) depth raw
    let items ← readItems? shape depth (position + 1) rest
    some (item :: items)

def readMembers? (shape : Shape) (depth : Nat) :
    List (Option String × Raw) → Option (List (String × Json))
  | [] => some []
  | (none, _) :: _ => none
  | (some name, raw) :: rest => do
    let members ← readMembers? shape depth rest
    match shape.member? name with
    | none => some members
    | some shape => do
      let value ← read? shape depth raw
      some ((name, value) :: members)

end

end Raw

/-- Arrays and objects may be nested this deep. -/
def depthLimit : Nat := 127

/-- The document of a shape that a sequence of symbols holds. -/
def ofSymbols? (shape : Shape) (input : List Symbol) : Option Json :=
  (Raw.ofSymbols? input).bind (Raw.read? shape depthLimit)

/-- The document that a text holds. -/
def parse? (text : String) : Option Json := ofSymbols? .any (Symbol.ofString text)

end GraphClient.Json
