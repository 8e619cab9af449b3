import GraphClient.Traversal.Script
import Mathlib.Tactic.Common

/-!
# Texts in scripts

A script says what a reader makes of it only as long as names and texts keep clear of the characters
that divide it. The numbers always do: they have digits, letters, signs and, if they are floats, a
point.
-/

namespace GraphClient

namespace Scalar

/-- The characters of a text all pass a test. -/
def isSpelt (text : Char → Bool) : Scalar → Bool
  | string t => t.toList.all text
  | _ => true

end Scalar

mutual

/-- The characters of the names of operations pass one test, and those of the texts another. -/
def Argument.isSpelt (name text : Char → Bool) : Argument → Bool
  | .scalar s => s.isSpelt text
  | .vertex id => id.isSpelt text
  | .traversal steps => Step.areSpelt name text steps
  | .step s => s.isSpelt name text

def Step.isSpelt (name text : Char → Bool) : Step → Bool
  | ⟨operation, arguments⟩ => operation.toList.all name && Argument.areSpelt name text arguments

def Argument.areSpelt (name text : Char → Bool) : List Argument → Bool
  | [] => true
  | a :: rest => a.isSpelt name text && Argument.areSpelt name text rest

def Step.areSpelt (name text : Char → Bool) : List Step → Bool
  | [] => true
  | s :: rest => s.isSpelt name text && Step.areSpelt name text rest

end

def Traversal.isSpelt (name text : Char → Bool) (t : Traversal) : Bool :=
  Step.areSpelt name text t.steps

section Numbers

variable {c : Char} {x : Double}

lemma mem_natText {n : Nat} (h : c ∈ (Nat.repr n).toList) : c.isDigit = true := by
  rw [Nat.repr_eq_ofList_toDigits, String.toList_ofList] at h
  exact Nat.isDigit_of_mem_toDigits (by decide) (by decide) h

lemma mem_intText {n : Int} (h : c ∈ (toString n).toList) : c.isDigit = true ∨ c = '-' := by
  change c ∈ n.repr.toList at h
  rw [Int.repr_eq_if] at h
  split at h
  · exact .inl (mem_natText h)
  · rcases List.mem_append.1 (String.toList_append ▸ h) with h | h
    · exact .inr (by simpa using h)
    · exact .inl (mem_natText h)

lemma intText_ne_nil (n : Int) : (toString n).toList ≠ [] := by
  change n.repr.toList ≠ []
  rw [Int.repr_eq_if]
  split
  · simp
  · simp

lemma natText_inj {m n : Nat} (h : m.repr = n.repr) : m = n := by
  have hvalue := congrArg (fun text => Nat.ofDigitChars 10 text.toList 0) h
  simpa [Nat.repr_eq_ofList_toDigits, Nat.ofDigitChars_ten_toDigits] using hvalue

/-- The text of an integer tells which it is: a minus is no digit. -/
lemma intText_inj {m n : Int} (h : m.repr = n.repr) : m = n := by
  have hminus (a b : Nat) : a.repr ≠ "-" ++ b.repr := by
    intro hab
    have hmem : '-' ∈ a.repr.toList := by simp [hab]
    cases mem_natText hmem
  rw [Int.repr_eq_if, Int.repr_eq_if] at h
  split at h <;> split at h
  · have := natText_inj h
    omega
  · exact absurd h (hminus _ _)
  · exact absurd h.symm (hminus _ _)
  · have htext : (-m).toNat.repr = (-n).toNat.repr :=
      String.toList_inj.1 (by simpa using congrArg String.toList h)
    have := natText_inj htext
    omega

lemma mem_positional {d : Double.Digits} (h : c ∈ d.positional.toList) :
    c.isDigit = true ∨ c = '.' := by
  have hwritten {a : Char} (ha : a ∈ Nat.toDigits 10 d.digits) : a.isDigit = true :=
    Nat.isDigit_of_mem_toDigits (by decide) (by decide) ha
  have hzeros {a : Char} {n : Nat} (ha : a ∈ List.replicate n '0') : a.isDigit = true := by
    rw [List.eq_of_mem_replicate ha]
    decide
  have hpadded {a : Char} {n : Nat} (ha : a ∈ List.replicate n '0' ++ Nat.toDigits 10 d.digits) :
      a.isDigit = true := (List.mem_append.1 ha).elim hzeros hwritten
  unfold Double.Digits.positional at h
  dsimp only at h
  split at h <;> rw [String.toList_ofList, List.mem_append] at h
  · exact .inl (h.elim hwritten hzeros)
  · rcases h with h | h
    · exact .inl (hpadded (List.mem_of_mem_take h))
    · rcases List.mem_cons.1 h with h | h
      · exact .inr h
      · exact .inl (hpadded (List.mem_of_mem_drop h))

lemma mem_doubleText (hn : x.isNaN = false) (hi : x.isInfinite = false)
    (h : c ∈ x.text.toList) : c.isDigit = true ∨ c = '.' ∨ c = '-' := by
  have hbody {a : Char} (ha : a ∈ (if x.isZero then "0" else x.shortest.positional).toList) :
      a.isDigit = true ∨ a = '.' ∨ a = '-' := by
    split at ha
    · rw [show a = '0' by simpa using ha]
      exact .inl (by decide)
    · exact (mem_positional ha).imp_right .inl
  simp only [Double.text, hn, hi, Bool.false_eq_true, if_false] at h
  by_cases hs : x.isNegative = true
  · rw [if_pos hs, String.toList_append, List.mem_append] at h
    rcases h with h | h
    · exact .inr (.inr (by simpa using h))
    · exact hbody h
  · rw [if_neg hs] at h
    exact hbody h

/-- A character that a number can have: a letter, a digit, a sign, a point or an underscore. -/
def isNumeral (c : Char) : Bool := c.isAlphanum ∨ c = '.' ∨ c = '-' ∨ c = '_'

lemma isNumeral_of_isDigit (h : c.isDigit = true) : isNumeral c = true := by
  simp [isNumeral, Char.isAlphanum, h]

/-- No character of a number divides a script, except for the point. -/
lemma ne_of_isNumeral (h : isNumeral c = true) : c ≠ '(' ∧ c ≠ ')' ∧ c ≠ '\'' ∧ c ≠ ',' := by
  refine ⟨?_, ?_, ?_, ?_⟩ <;> rintro rfl <;> cases h

lemma isNumeral_of_int {n : Int} (h : c ∈ (toString n).toList) : isNumeral c = true := by
  rcases mem_intText h with hd | rfl
  · exact isNumeral_of_isDigit hd
  · decide

lemma isNumeral_of_float (h : c ∈ Scalar.floatScript x) : isNumeral c = true := by
  have hnamed {name : String} (hname : name.toList.all isNumeral = true) (hc : c ∈ name.toList) :
      isNumeral c = true := List.all_eq_true.1 hname c hc
  unfold Scalar.floatScript at h
  dsimp only at h
  split at h
  · exact hnamed (by decide) h
  · split at h
    · split at h
      · exact hnamed (by decide) h
      · exact hnamed (by decide) h
    · rename_i hn hi
      have htext (hc : c ∈ x.text.toList) : isNumeral c = true := by
        rcases mem_doubleText (by simpa using hn) (by simpa using hi) hc with hd | rfl | rfl
        · exact isNumeral_of_isDigit hd
        · decide
        · decide
      split at h
      · exact htext h
      · rcases List.mem_append.1 h with h | h
        · exact htext h
        · rcases (by simpa using h : c = '.' ∨ c = '0') with rfl | rfl <;> decide

/-- Every float has a point. -/
lemma point_mem_floatScript (x : Double) : '.' ∈ Scalar.floatScript x := by
  unfold Scalar.floatScript
  dsimp only
  split
  · decide
  · split
    · split <;> decide
    · split
      · rename_i h
        simpa using h
      · simp

end Numbers

end GraphClient
