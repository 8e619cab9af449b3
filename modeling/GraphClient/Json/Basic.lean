import GraphClient.Entries
import GraphClient.Number.Double

/-!
# JSON documents

A document is a tree of nulls, booleans, numbers, strings, arrays and objects. Whole numbers are
kept exactly, all others as doubles, and the members of an object are ordered by name.
-/

namespace GraphClient

namespace Json

/-- A number of a document. -/
inductive Number where
  | int (n : Int)
  | float (x : Double)
  deriving DecidableEq, Repr, Inhabited

namespace Number

/-- The whole number, if it has 64 bits with a sign. -/
def toInt64? : Number → Option Int64
  | .int n =>
    if Int64.minValue.toInt ≤ n ∧ n ≤ Int64.maxValue.toInt then some (Int64.ofInt n) else none
  | .float _ => none

/-- The nearest double. -/
def toDouble : Number → Double
  | .int n => Double.ofInt n
  | .float x => x

end Number

end Json

/-- A JSON document. -/
inductive Json where
  | null
  | bool (b : Bool)
  | number (n : Json.Number)
  | string (text : String)
  | array (items : List Json)
  | object (members : List (String × Json))
  deriving Repr, Inhabited

namespace Json

/-- The member of an object with a name. -/
def member? (json : Json) (name : String) : Option Json :=
  match json with
  | .object members => Entries.get? members name
  | _ => none

def asString? : Json → Option String
  | .string text => some text
  | _ => none

end Json

end GraphClient
