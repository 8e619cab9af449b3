import GraphClient.Number.Shortest
import GraphClient.Traversal.Basic

/-!
# Scripts

The script of a traversal: a chain of calls from the source of all traversals. A traversal inside
another is a chain without the source. Texts stand in single quotes as they are.
-/

namespace GraphClient

namespace Scalar

/-- A float in positional notation with a point, or the name of a constant. -/
def floatScript (x : Double) : List Char :=
  if x.isNaN then "Double.NaN".toList
  else if x.isInfinite then
    if x.isNegative then "Double.NEGATIVE_INFINITY".toList
    else "Double.POSITIVE_INFINITY".toList
  else
    let text := x.text.toList
    if text.contains '.' then text else text ++ ['.', '0']

def quoted (text : List Char) : List Char := '\'' :: text ++ ['\'']

def script : Scalar → List Char
  | int n => (toString n.toInt).toList
  | float x => floatScript x
  | string text => quoted text.toList
  | bool b => quoted (if b then "true" else "false").toList

end Scalar

mutual

def Argument.script : Argument → List Char
  | .scalar s => s.script
  | .vertex id => 'V' :: '(' :: id.script ++ [')']
  | .traversal steps => Step.chain steps
  | .step s => s.script

def Step.script : Step → List Char
  | ⟨operation, arguments⟩ => operation.toList ++ '(' :: Step.argumentList arguments ++ [')']

/-- Arguments with commas and blanks between them. -/
def Step.argumentList : List Argument → List Char
  | [] => []
  | [a] => a.script
  | a :: rest => a.script ++ ',' :: ' ' :: Step.argumentList rest

/-- Steps with dots between them. -/
def Step.chain : List Step → List Char
  | [] => []
  | [s] => s.script
  | s :: rest => s.script ++ '.' :: Step.chain rest

end

namespace Traversal

/-- The name of the source of all traversals. -/
def source : Char := 'g'

/-- The script of a traversal from the source. -/
def script (t : Traversal) : String :=
  String.ofList (source :: t.steps.flatMap fun s => '.' :: s.script)

/-- The script of a traversal inside another. -/
def anonymousScript (t : Traversal) : String := String.ofList (Step.chain t.steps)

end Traversal

/-- What a caller asks the server to evaluate. -/
inductive Query where
  | script (text : String)
  | traversal (t : Traversal)

namespace Query

def toScript : Query → String
  | script text => text
  | traversal t => t.script

end Query

end GraphClient
