import GraphClient.Traversal.Basic

/-!
# Steps and predicates of the traversal language

The steps that have names of their own, each with an identifier in lower case, and the predicates
that stand as arguments.
-/

namespace GraphClient

namespace Vocabulary

/-- Identifier and name of each step that takes any arguments. -/
def steps : List (String × String) :=
  [("v", "V"), ("e", "E"), ("inject", "inject"),
    ("add_v", "addV"), ("add_e", "addE"), ("property", "property"), ("from", "from"),
    ("to", "to"),
    ("has", "has"), ("has_label", "hasLabel"), ("has_id", "hasId"), ("has_key", "hasKey"),
    ("has_not", "hasNot"), ("and", "and"), ("or", "or"), ("not", "not"), ("is", "is"),
    ("where_", "where"), ("dedup", "dedup"), ("simple_path", "simplePath"),
    ("cyclic_path", "cyclicPath"), ("tail", "tail"),
    ("out", "out"), ("in_", "in"), ("both", "both"), ("out_e", "outE"), ("in_e", "inE"),
    ("both_e", "bothE"), ("out_v", "outV"), ("in_v", "inV"), ("both_v", "bothV"),
    ("other_v", "otherV"),
    ("values", "values"), ("value_map", "valueMap"), ("properties", "properties"),
    ("id", "id"), ("label", "label"), ("key", "key"), ("value", "value"),
    ("select", "select"), ("as_", "as"), ("path", "path"), ("constant", "constant"),
    ("by", "by"),
    ("emit", "emit"), ("until", "until"), ("loops", "loops"), ("coalesce", "coalesce"),
    ("union", "union"), ("optional", "optional"), ("identity", "identity"),
    ("count", "count"), ("fold", "fold"), ("unfold", "unfold"),
    ("group_count", "groupCount"), ("order", "order"), ("side_effect", "sideEffect"),
    ("aggregate", "aggregate"), ("sum", "sum"), ("min", "min"), ("max", "max"),
    ("mean", "mean")]

/-- Identifier and name of each step that ends a traversal and takes no arguments. -/
def terminals : List (String × String) :=
  [("next", "next"), ("try_next", "tryNext"), ("has_next", "hasNext"), ("to_list", "toList"),
    ("to_set", "toSet"), ("to_bulk_set", "toBulkSet"), ("iterate", "iterate"),
    ("drop", "drop")]

end Vocabulary

namespace Traversal

def limit (t : Traversal) (n : Int64) : Traversal := t.call "limit" [.scalar (.int n)]

def times (t : Traversal) (n : Int64) : Traversal := t.call "times" [.scalar (.int n)]

def skip (t : Traversal) (n : Int64) : Traversal := t.call "skip" [.scalar (.int n)]

def range (t : Traversal) (low high : Int64) : Traversal :=
  t.call "range" [.scalar (.int low), .scalar (.int high)]

/-- A step that repeats a traversal. -/
def repeating (t : Traversal) (body : Traversal) : Traversal :=
  t.call "repeat" [body.toArgument]

/-- The traversal with a named step at its end: arguments are dropped from a terminal step, and a
name without a meaning is called as it is. -/
def callNamed (t : Traversal) (identifier : String) (arguments : List Argument) : Traversal :=
  match List.lookup identifier Vocabulary.steps with
  | some operation => t.call operation arguments
  | none =>
    match List.lookup identifier Vocabulary.terminals with
    | some operation => t.call operation []
    | none => t.call identifier arguments

end Traversal

namespace Predicate

def eq (x : Argument) : Step := ⟨"eq", [x]⟩

def neq (x : Argument) : Step := ⟨"neq", [x]⟩

def lt (x : Argument) : Step := ⟨"lt", [x]⟩

def lte (x : Argument) : Step := ⟨"lte", [x]⟩

def gt (x : Argument) : Step := ⟨"gt", [x]⟩

def gte (x : Argument) : Step := ⟨"gte", [x]⟩

/-- Between two bounds, both excluded. -/
def inside (low high : Scalar) : Step := ⟨"inside", [.scalar low, .scalar high]⟩

def outside (low high : Scalar) : Step := ⟨"outside", [.scalar low, .scalar high]⟩

/-- Between two bounds, the lower one included. -/
def between (low high : Scalar) : Step := ⟨"between", [.scalar low, .scalar high]⟩

def within (xs : List Argument) : Step := ⟨"within", xs⟩

def without (xs : List Argument) : Step := ⟨"without", xs⟩

def startingWith (text : String) : Step := ⟨"startingWith", [.scalar (.string text)]⟩

def endingWith (text : String) : Step := ⟨"endingWith", [.scalar (.string text)]⟩

def containing (text : String) : Step := ⟨"containing", [.scalar (.string text)]⟩

end Predicate

end GraphClient
