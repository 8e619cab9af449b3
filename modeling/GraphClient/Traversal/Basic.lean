import GraphClient.Number.Double

/-!
# Traversals

A traversal is a list of steps with arguments. An argument is a literal, a vertex given by its
identifier, a traversal inside this one, or a step used as an expression.
-/

namespace GraphClient

/-- A literal argument. -/
inductive Scalar where
  | int (n : Int64)
  | float (x : Double)
  | string (text : String)
  | bool (b : Bool)
  deriving DecidableEq, Repr, Inhabited

mutual

inductive Argument where
  | scalar (s : Scalar)
  | vertex (id : Scalar)
  | traversal (steps : List Step)
  | step (s : Step)

structure Step where
  operation : String
  arguments : List Argument

end

instance : Inhabited Step := ⟨⟨"", []⟩⟩

instance : Inhabited Argument := ⟨.scalar default⟩

/-- The steps of a traversal in order. -/
structure Traversal where
  steps : List Step

namespace Traversal

/-- The traversal without steps. -/
def start : Traversal := ⟨[]⟩

instance : Inhabited Traversal := ⟨start⟩

/-- The traversal with a step at its end. -/
def push (t : Traversal) (step : Step) : Traversal := ⟨t.steps ++ [step]⟩

/-- The traversal with a call of an operation at its end. -/
def call (t : Traversal) (operation : String) (arguments : List Argument) : Traversal :=
  t.push ⟨operation, arguments⟩

def length (t : Traversal) : Nat := t.steps.length

def isEmpty (t : Traversal) : Bool := t.steps.isEmpty

def toArgument (t : Traversal) : Argument := .traversal t.steps

end Traversal

end GraphClient
