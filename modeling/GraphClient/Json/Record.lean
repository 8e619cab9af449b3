import GraphClient.Json.Reader

/-!
# Records

A record is an object with known members, or an array of their values in order.
-/

namespace GraphClient.Json

/-- The fields of a record, and whether they were given by position. -/
structure Record where
  positional : Bool
  fields : List (Option Json)

/-- The fields with these names, given by an object, or by an array in the order of the names. -/
def record? (names : List String) : Json → Option Record
  | .object members => some ⟨false, names.map fun name => Entries.get? members name⟩
  | .array items =>
    if items.length ≤ names.length then
      some ⟨true, items.map some ++ List.replicate (names.length - items.length) none⟩
    else none
  | _ => none

/-- A field that may be missing or null. -/
def optional : Option Json → Option Json
  | some .null => none
  | field => field

end GraphClient.Json
