import GraphClient.GraphSON.Handler
import GraphClient.Text.Quoted

/-!
# Decoders

A decoder is a table of handlers by type name. An envelope whose type has no handler stands for its
payload by form; a bare document keeps its form. Decoding is one pass from the leaves up, which
works out only the values that are asked for.
-/

namespace GraphClient.GraphSON

/-- Handlers by type name. -/
structure Decoder where
  handlers : Entries Handler

namespace Decoder

def empty : Decoder := ⟨[]⟩

/-- The decoder with a handler for a type in place of any that it had. -/
def register (d : Decoder) (tag : String) (handler : Handler) : Decoder :=
  ⟨Entries.insert d.handlers tag handler⟩

def handler? (d : Decoder) (tag : String) : Option Handler := Entries.get? d.handlers tag

def handles (d : Decoder) (tag : String) : Bool := (d.handler? tag).isSome

/-- The standard handlers. -/
def standardHandlers : List (String × Handler) :=
  [(Tag.list, Handler.list), (Tag.set, Handler.set), (Tag.map, Handler.map),
    (Tag.int32, Handler.integer), (Tag.int64, Handler.integer),
    (Tag.double, Handler.float), (Tag.float, Handler.float),
    (Tag.uuid, Handler.plain), (Tag.date, Handler.timestamp),
    (Tag.timestamp, Handler.timestamp), (Tag.vertex, Handler.vertex),
    (Tag.vertexProperty, Handler.vertexProperty), (Tag.edge, Handler.edge),
    (Tag.property, Handler.property), (Tag.path, Handler.path),
    (Tag.token, Handler.plain), (Tag.direction, Handler.plain),
    (Tag.bulkSet, Handler.bulkSet), (Tag.traverser, Handler.traverser)]

/-- The decoder of the standard types. -/
def standard : Decoder :=
  standardHandlers.foldl (fun d (tag, handler) => d.register tag handler) empty

/-- The value of a content whose parts are decoded. -/
def valueOf (d : Decoder) (content : Content) : Value :=
  match Part.tagged? content with
  | some (tag, payload) =>
    match d.handler? tag with
    | some handler => handler payload
    | none => payload.bare
  | none => content.bare

/-- A content with its value, which is not worked out yet. -/
def partOf (d : Decoder) (content : Content) : Part :=
  ⟨Thunk.mk fun _ => d.valueOf content, content⟩

theorem value_partOf (d : Decoder) (content : Content) :
    (d.partOf content).value = d.valueOf content := rfl

mutual

/-- A document with the value of every part. -/
def read (d : Decoder) : Json → Part
  | .null => d.partOf .null
  | .bool b => d.partOf (.bool b)
  | .number n => d.partOf (.number n)
  | .string text => d.partOf (.string text)
  | .array items => d.partOf (.array (readItems d items))
  | .object members => d.partOf (.object (readMembers d members))

def readItems (d : Decoder) : List Json → List Part
  | [] => []
  | j :: js => read d j :: readItems d js

def readMembers (d : Decoder) : List (String × Json) → List (String × Part)
  | [] => []
  | (name, j) :: rest => (name, read d j) :: readMembers d rest

end

/-- The value of a document. -/
def value (d : Decoder) (json : Json) : Value := (d.read json).value

/-- The value of a document that may be absent. -/
def decode (d : Decoder) (data : Option Json) : Value := (data.map d.value).getD .null

/-- The values that a response brings: the items of a list or a set, nothing for null, and any
other value alone. -/
def results (d : Decoder) (data : Option Json) : List Value :=
  match d.decode data with
  | .null => []
  | .list items | .set items => items
  | other => [other]

/-- The type names that have handlers, for diagnostics. -/
def debugText (d : Decoder) : String :=
  "GraphSONDecoder \x7b tags: [" ++
    ", ".intercalate ((Entries.keys d.handlers).map Quoted.quote) ++ "] \x7d"

end Decoder

/-- The value of a document under the standard handlers. -/
def decode (data : Option Json) : Value := Decoder.standard.decode data

end GraphClient.GraphSON
