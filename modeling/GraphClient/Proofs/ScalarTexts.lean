import GraphClient.Proofs.DoubleTexts
import GraphClient.Proofs.TimestampTexts
import GraphClient.Proofs.ValueEquality
import GraphClient.Value.Text

/-!
# Scalars and their texts

The letters in the text of a scalar tell of what kind it is, except that an integer and a float may
have the same text. So scalars that differ have different texts, if their numbers are of one kind.
-/

namespace GraphClient.Value

/-- A null, a boolean, a timestamp or a number: an integer or, as the other choice, a float that is
a number. -/
inductive IsScalar (floats : Bool) : Value → Prop
  | null : IsScalar floats .null
  | boolean (b : Bool) : IsScalar floats (.boolean b)
  | timestamp (t : Timestamp) : IsScalar floats (.timestamp t)
  | integer (h : floats = false) (n : Int64) : IsScalar floats (.integer n)
  | float (h : floats = true) {x : Double} (hx : x.isNaN = false) : IsScalar floats (.float x)

variable {floats : Bool} {a b v : Value}

lemma IsScalar.same_self (h : IsScalar floats v) : v.same v = true := by
  cases h with
  | float _ hx => rw [same, Double.same_self, hx, Bool.not_false]
  | _ => simp [same]

/-- The letters that the text of a scalar has, which tell its kind but for the kinds of numbers. -/
def letters : Value → List Char
  | .null => ['n', 'u', 'l', 'l']
  | .boolean true => ['t', 'r', 'u', 'e']
  | .boolean false => ['f', 'a', 'l', 's', 'e']
  | .timestamp _ => ['T']
  | .float x => if x.isInfinite then ['i', 'n', 'f'] else []
  | _ => []

lemma IsScalar.letters_text (h : IsScalar floats v) :
    v.text.toList.filter Char.isAlpha = v.letters := by
  cases h with
  | null => rfl
  | boolean b => cases b <;> rfl
  | timestamp t => exact t.letters_text
  | integer _ n =>
    refine List.filter_eq_nil_iff.2 fun c hc => ?_
    rcases mem_intText hc with hd | rfl
    · simp [Decimal.isAlpha_of_isDigit hd]
    · decide
  | float _ hx => exact Double.letters_text hx

/-- Different scalars have different texts. -/
theorem eq_of_text (ha : IsScalar floats a) (hb : IsScalar floats b) (h : a.text = b.text) :
    a = b := by
  -- the letters tell different kinds apart, and of one kind the texts are known to differ
  have hletters : a.letters = b.letters := by
    rw [← ha.letters_text, h, hb.letters_text]
  have hfloat {x : Double} {l : List Char} (h : (float x).letters = l) :
      l = [] ∨ l = ['i', 'n', 'f'] := by
    rw [← h, letters]
    split <;> simp
  cases ha with
  | null =>
    cases hb with
    | null => rfl
    | boolean b => cases b <;> cases hletters
    | float => rcases hfloat hletters.symm with h | h <;> cases h
    | _ => cases hletters
  | boolean a =>
    cases hb with
    | boolean b => cases a <;> cases b <;> first | rfl | cases hletters
    | float => cases a <;> rcases hfloat hletters.symm with h | h <;> cases h
    | _ => cases a <;> cases hletters
  | timestamp s =>
    cases hb with
    | boolean b => cases b <;> cases hletters
    | timestamp t => exact congrArg timestamp (Timestamp.text_inj h)
    | float => rcases hfloat hletters.symm with h | h <;> cases h
    | _ => cases hletters
  | integer hm m =>
    cases hb with
    | boolean b => cases b <;> cases hletters
    | integer _ n => exact congrArg integer (Int64.toInt_inj.1 (intText_inj h))
    | float hf _ => exact absurd (hm.symm.trans hf) Bool.false_ne_true
    | _ => cases hletters
  | float hf hx =>
    cases hb with
    | boolean b => cases b <;> rcases hfloat hletters with h | h <;> cases h
    | integer hn _ => exact absurd (hn.symm.trans hf) Bool.false_ne_true
    | float _ hy => exact congrArg float (Double.text_inj hx hy h)
    | _ => rcases hfloat hletters with h | h <;> cases h

end GraphClient.Value
