import GraphClient.Number.Shortest
import GraphClient.Proofs.DecimalTexts
import GraphClient.Proofs.ScriptTexts
import Mathlib.Algebra.Order.Field.Power
import Mathlib.Algebra.Order.Ring.Unbundled.Rat
import Mathlib.Data.Rat.Cast.Order
import Mathlib.Tactic.FieldSimp
import Mathlib.Tactic.Linarith
import Mathlib.Tactic.NormNum
import Mathlib.Tactic.Positivity
import Mathlib.Tactic.Ring

/-!
# Doubles and their texts

The numbers that are rounded to a double reach half way to its neighbours, so that none is rounded
to two doubles. The shortest digits of a double are among these numbers, and their positional text
is read as the number that they stand for. So doubles that differ have different texts.
-/

namespace GraphClient

namespace Double

/-! ### Magnitudes in order -/

/-- The significand of a finite double of a magnitude. -/
def significandOf (n : Nat) : Nat := if n < 2 ^ 52 then n else 2 ^ 52 + n % 2 ^ 52

def exponentOf (n : Nat) : Int := if n < 2 ^ 52 then -1074 else (n / 2 ^ 52 : Nat) - 1075

/-- The number that a magnitude stands for. -/
def numberOf (n : Nat) : ℚ := significandOf n * 2 ^ exponentOf n

lemma significand_eq (x : Double) : x.significand = significandOf x.magnitude := rfl

lemma exponent_eq (x : Double) : x.exponent = exponentOf x.magnitude := rfl

lemma significandOf_lt (n : Nat) : significandOf n < 2 ^ 53 := by
  rw [significandOf]
  split <;> omega

lemma significandOf_pos {n : Nat} (h : 0 < n) : 0 < significandOf n := by
  rw [significandOf]
  split <;> omega

lemma significandOf_mod_two (n : Nat) : significandOf n % 2 = n % 2 := by
  rw [significandOf]
  split <;> omega

/-- The next number is one unit of the last place further, also where the exponent grows. -/
lemma numberOf_succ (n : Nat) : numberOf (n + 1) = numberOf n + 2 ^ exponentOf n := by
  -- where the exponent grows, the significand falls back to the least one
  by_cases hgrows : 2 ^ 52 < n + 1 ∧ (n + 1) % 2 ^ 52 = 0
  · have hlast : significandOf n = 2 ^ 53 - 1 := by
      simp only [significandOf]
      split_ifs <;> omega
    have hfirst : significandOf (n + 1) = 2 ^ 52 := by
      simp only [significandOf]
      split_ifs <;> omega
    have hexponent : exponentOf (n + 1) = exponentOf n + 1 := by
      simp only [exponentOf]
      split_ifs <;> omega
    rw [numberOf, numberOf, hlast, hfirst, hexponent, zpow_add_one₀ two_ne_zero]
    norm_num
    ring
  · have hnext : significandOf (n + 1) = significandOf n + 1 := by
      simp only [significandOf]
      split_ifs <;> omega
    have hexponent : exponentOf (n + 1) = exponentOf n := by
      simp only [exponentOf]
      split_ifs <;> omega
    rw [numberOf, numberOf, hnext, hexponent, Nat.cast_succ, add_mul, one_mul]

lemma numberOf_strictMono : StrictMono numberOf := strictMono_nat_of_lt_succ fun n => by
  rw [numberOf_succ, lt_add_iff_pos_right]
  positivity

def halfway (n : Nat) : ℚ := (numberOf n + numberOf (n + 1)) / 2

lemma halfway_strictMono : StrictMono halfway := fun m n h => by
  have hm := numberOf_strictMono h
  have hn := numberOf_strictMono (Nat.succ_lt_succ h)
  rw [halfway, halfway]
  linarith

/-! ### Intervals of rounding -/

namespace Interval

def lower (i : Interval) : ℚ := i.low * 2 ^ i.unit

def upper (i : Interval) : ℚ := i.high * 2 ^ i.unit

/-- A number between the ends, or one of them if they belong to the interval. -/
def Holds (i : Interval) (q : ℚ) : Prop :=
  i.lower ≤ q ∧ q ≤ i.upper ∧ (i.closed = false → i.lower < q ∧ q < i.upper)

end Interval

variable {x y : Double} {q : ℚ}

lemma zpow_sub_two (e : Int) : (2 : ℚ) ^ (e - 2) = 2 ^ e / 4 := by
  rw [zpow_sub₀ two_ne_zero]
  norm_num

lemma upper_interval (x : Double) : x.interval.upper = halfway x.magnitude := by
  rw [halfway, numberOf_succ, numberOf, Interval.upper, interval, significand_eq, exponent_eq]
  dsimp only
  rw [zpow_sub_two]
  push_cast
  ring

/-- Below a power of two the interval may be shorter than half a unit, but it is never longer. -/
lemma halfway_le_lower {n : Nat} (h : x.magnitude = n + 1) : halfway n ≤ x.interval.lower := by
  have hpos : 0 < significandOf (n + 1) := significandOf_pos n.succ_pos
  have hhalf : halfway n = numberOf (n + 1) - 2 ^ exponentOf n / 2 := by
    rw [halfway, numberOf_succ]
    ring
  rw [hhalf, Interval.lower, interval, significand_eq, exponent_eq, h, numberOf]
  dsimp only
  rw [zpow_sub_two]
  split
  · have hexponent : exponentOf (n + 1) ≤ exponentOf n + 1 := by
      simp only [exponentOf]
      split_ifs <;> omega
    have hpower : (2 : ℚ) ^ exponentOf (n + 1) ≤ 2 ^ exponentOf n * 2 := by
      rw [← zpow_add_one₀ two_ne_zero]
      exact zpow_le_zpow_right₀ one_le_two hexponent
    rw [Nat.cast_sub (by omega)]
    push_cast
    linarith
  · have hexponent : exponentOf (n + 1) = exponentOf n := by
      rename_i hm
      change significandOf (n + 1) ≠ 2 ^ 52 at hm
      revert hm
      simp only [exponentOf, significandOf]
      split_ifs <;> omega
    rw [hexponent, Nat.cast_sub (by omega)]
    push_cast
    linarith

/-- Intervals of different magnitudes have nothing in common: where one ends at the beginning of
the other, the end belongs to one of them at most. -/
theorem magnitude_eq_of_holds (hx : x.interval.Holds q) (hy : y.interval.Holds q) :
    x.magnitude = y.magnitude := by
  wlog hle : x.magnitude ≤ y.magnitude with hsymm
  · exact (hsymm hy hx (by omega)).symm
  by_contra hne
  obtain ⟨n, hn⟩ : ∃ n, y.magnitude = n + 1 := ⟨y.magnitude - 1, by omega⟩
  -- the intervals can only touch, so `q` is the end of both and `y` is the next after `x`;
  -- then one of the significands is odd, and its interval has no ends
  have hmono : halfway x.magnitude ≤ halfway n := halfway_strictMono.monotone (by omega)
  have hends : x.interval.upper ≤ y.interval.lower :=
    (upper_interval x).trans_le (hmono.trans (halfway_le_lower hn))
  have hupper : q = x.interval.upper := le_antisymm hx.2.1 (hends.trans hy.1)
  have hlower : y.interval.lower = q := le_antisymm hy.1 (hx.2.1.trans hends)
  have hx' : x.interval.closed ≠ false := fun h => ((hx.2.2 h).2.trans_eq hupper.symm).false
  have hy' : y.interval.closed ≠ false := fun h => (hlower.symm.trans_lt (hy.2.2 h).1).false
  have hnext : x.magnitude = n := halfway_strictMono.injective <| le_antisymm hmono <| by
    rw [← upper_interval, ← hupper, ← hlower]
    exact halfway_le_lower hn
  have hclosed (z : Double) (h : z.interval.closed ≠ false) : z.magnitude % 2 = 0 := by
    rw [← significandOf_mod_two, ← significand_eq]
    simpa [interval] using h
  have hevenx := hclosed x hx'
  have heveny := hclosed y hy'
  omega

/-! ### Digits in the interval -/

/-- The number that digits with an exponent stand for. -/
def Digits.value (d : Digits) : ℚ := d.digits * 10 ^ d.exponent

/-- A power as a quotient of naturals, one of which is one. -/
lemma zpow_mul_ite (b : Nat) (hb : 0 < b) (e : Int) :
    (b : ℚ) ^ e * ((if e < 0 then Nat.pow b e.natAbs else 1 : Nat) : ℚ) =
      ((if e < 0 then 1 else Nat.pow b e.natAbs : Nat) : ℚ) := by
  have hne : (b : ℚ) ≠ 0 := by positivity
  split
  · obtain ⟨k, rfl⟩ := Int.exists_eq_neg_ofNat (show e ≤ 0 by omega)
    simp [hne]
  · obtain ⟨k, rfl⟩ := Int.eq_ofNat_of_zero_le (show 0 ≤ e by omega)
    simp

/-- The point that is taken is the last before the value or the first after it, and keeps the end on
its side. -/
lemma Grid.eq_of_nearest? {g : Grid} {closed : Bool} {k : Nat} (h : g.nearest? closed = some k) :
    (k = g.value / g.den ∧ g.low ≤ k * g.den ∧ (closed = false → g.low < k * g.den)) ∨
      (k = g.value / g.den + 1 ∧ k * g.den ≤ g.high ∧ (closed = false → k * g.den < g.high)) := by
  rw [nearest?] at h
  cases closed <;> simp only [if_true, Bool.false_eq_true, if_false] at h <;> grind

/-- Scaling all alike does not change which of two numbers is less. -/
lemma scaled_le_iff {a k scale den : Nat} {u p : ℚ} (hden : 0 < den) (hp : 0 < p)
    (h : scale * p = u * den) :
    (a * scale ≤ k * den ↔ a * u ≤ k * p) ∧ (k * den ≤ a * scale ↔ k * p ≤ a * u) := by
  have hden' : (0 : ℚ) < den := by exact_mod_cast hden
  have ha : (a * scale : ℚ) * p = (a * u) * den := by rw [mul_assoc, h, mul_assoc]
  have hk : (k * den : ℚ) * p = (k * p) * den := mul_right_comm _ _ _
  constructor
  · rw [← mul_le_mul_iff_left₀ hden', ← ha, ← hk, mul_le_mul_iff_left₀ hp]
    exact_mod_cast Iff.rfl
  · rw [← mul_le_mul_iff_left₀ hden', ← ha, ← hk, mul_le_mul_iff_left₀ hp]
    exact_mod_cast Iff.rfl

namespace Interval

variable {i : Interval} {e leading : Int}

/-- A grid is the interval with all its numbers scaled alike, so that points can be counted. -/
lemma exists_scale (i : Interval) (e : Int) : ∃ scale : Nat, 0 < (i.grid e).den ∧
    ((i.grid e).value = i.value * scale ∧ (i.grid e).low = i.low * scale ∧
      (i.grid e).high = i.high * scale) ∧
    ∀ a k : Nat, (a * scale ≤ k * (i.grid e).den ↔ (a : ℚ) * 2 ^ i.unit ≤ k * 10 ^ e) ∧
      (k * (i.grid e).den ≤ a * scale ↔ (k : ℚ) * 10 ^ e ≤ a * 2 ^ i.unit) := by
  have hden : 0 < (i.grid e).den := by
    simp only [grid, Nat.pow_eq]
    split_ifs <;> positivity
  refine ⟨_, hden, ⟨rfl, rfl, rfl⟩, fun a k => scaled_le_iff hden (by positivity) ?_⟩
  have htwo := zpow_mul_ite 2 two_pos i.unit
  have hten := zpow_mul_ite 10 (by norm_num) e
  rw [grid]
  push_cast at htwo hten ⊢
  rw [← htwo, ← hten]
  ring

lemma floor_bounds (i : Interval) (e : Int) :
    (((i.grid e).value / (i.grid e).den : Nat) : ℚ) * 10 ^ e ≤ i.value * 2 ^ i.unit ∧
      i.value * 2 ^ i.unit < (((i.grid e).value / (i.grid e).den + 1 : Nat) : ℚ) * 10 ^ e := by
  obtain ⟨scale, hden, ⟨hvalue, -, -⟩, hle⟩ := i.exists_scale e
  constructor
  · rw [← (hle i.value _).2, ← hvalue]
    exact Nat.div_mul_le_self _ _
  · rw [← not_le, ← (hle i.value _).2, ← hvalue, Nat.not_le]
    exact Nat.lt_mul_of_div_lt (Nat.lt_succ_self _) hden

lemma holds_nearest {k : Nat} (hi : i.low < i.value ∧ i.value < i.high)
    (h : (i.grid e).nearest? i.closed = some k) : i.Holds (k * 10 ^ e) := by
  obtain ⟨scale, -, ⟨-, hlow, hhigh⟩, hle⟩ := i.exists_scale e
  obtain ⟨hbelow, habove⟩ := i.floor_bounds e
  have hunit : (0 : ℚ) < 2 ^ i.unit := by positivity
  have hlower : i.lower < i.value * 2 ^ i.unit :=
    mul_lt_mul_of_pos_right (by exact_mod_cast hi.1) hunit
  have hupper : i.value * 2 ^ i.unit < i.upper :=
    mul_lt_mul_of_pos_right (by exact_mod_cast hi.2) hunit
  rcases Grid.eq_of_nearest? h with ⟨rfl, hend, hopen⟩ | ⟨rfl, hend, hopen⟩
  · rw [hlow] at hend hopen
    refine ⟨(hle i.low _).1.1 hend, (hbelow.trans_lt hupper).le, fun hclosed => ⟨?_, ?_⟩⟩
    · exact not_le.1 (mt (hle i.low _).2.2 (Nat.not_le.2 (hopen hclosed)))
    · exact hbelow.trans_lt hupper
  · rw [hhigh] at hend hopen
    refine ⟨(hlower.trans habove).le, (hle i.high _).2.1 hend, fun hclosed => ⟨?_, ?_⟩⟩
    · exact hlower.trans habove
    · exact not_le.1 (mt (hle i.high _).1.2 (Nat.not_le.2 (hopen hclosed)))

/-- With so many digits that one unit of the last is less than the way to either end, no point has
to be searched. -/
lemma holds_floor (hi : i.low < i.value ∧ i.value < i.high) (h : (10 : ℚ) ^ e < 2 ^ i.unit) :
    i.Holds (((i.grid e).value / (i.grid e).den : Nat) * 10 ^ e) := by
  obtain ⟨hbelow, habove⟩ := i.floor_bounds e
  have hunit : (0 : ℚ) < 2 ^ i.unit := by positivity
  have hlower : (i.low + 1 : ℚ) * 2 ^ i.unit ≤ i.value * 2 ^ i.unit :=
    mul_le_mul_of_nonneg_right (by exact_mod_cast hi.1) hunit.le
  have hupper : i.value * 2 ^ i.unit < i.upper :=
    mul_lt_mul_of_pos_right (by exact_mod_cast hi.2) hunit
  have hlow : i.lower < (((i.grid e).value / (i.grid e).den : Nat) : ℚ) * 10 ^ e := by
    rw [Nat.cast_succ] at habove
    rw [lower]
    linarith
  have hhigh := hbelow.trans_lt hupper
  exact ⟨hlow.le, hhigh.le, fun _ => ⟨hlow, hhigh⟩⟩

lemma holds_search (hi : i.low < i.value ∧ i.value < i.high) {n : Nat}
    (h : (10 : ℚ) ^ (leading + 1 - n) < 2 ^ i.unit) (tries count : Nat)
    (hn : tries + count = n) : i.Holds (i.search leading tries count).value := by
  -- on the tries that are left: the grid after the last of them is fine enough for any point
  induction tries generalizing count with
  | zero =>
    rw [Nat.zero_add] at hn
    subst hn
    exact holds_floor hi h
  | succ tries ih =>
    rw [search]
    split
    · rename_i digits hdigits
      exact holds_nearest hi hdigits
    · exact ih (count + 1) (by omega)

end Interval

/-- The leading decimal digit does not stand before its number. -/
lemma zpow_leadingExponent_le {num den : Nat} (hnum : 0 < num) :
    (10 : ℚ) ^ leadingExponent num den * den ≤ num := by
  have hlow : 10 ^ ((Nat.toDigits 10 num).length - 1) ≤ num := by
    have hlen := Nat.length_toDigits_pos (b := 10) (n := num)
    by_cases hone : (Nat.toDigits 10 num).length = 1
    · rw [hone]
      exact hnum
    · rw [← Nat.not_lt, ← Nat.length_toDigits_le_iff (by norm_num) (by omega)]
      omega
  have hden : den ≤ 10 ^ (Nat.toDigits 10 den).length :=
    ((Nat.length_toDigits_le_iff (by norm_num) Nat.length_toDigits_pos).1 le_rfl).le
  rw [leadingExponent]
  generalize hguess : ((Nat.toDigits 10 num).length : Int) - (Nat.toDigits 10 den).length = guess
  by_cases hfits : if guess < 0 then den ≤ num * Nat.pow 10 guess.natAbs
      else den * Nat.pow 10 guess.natAbs ≤ num
  · rw [if_pos hfits]
    split at hfits
    · obtain ⟨k, rfl⟩ := Int.exists_eq_neg_ofNat (show guess ≤ 0 by omega)
      rw [zpow_neg, zpow_natCast, inv_mul_le_iff₀ (by positivity), mul_comm]
      exact_mod_cast (by simpa using hfits)
    · obtain ⟨k, rfl⟩ := Int.eq_ofNat_of_zero_le (show 0 ≤ guess by omega)
      rw [zpow_natCast, mul_comm]
      exact_mod_cast (by simpa using hfits)
  · rw [if_neg hfits]
    have hlen := Nat.length_toDigits_pos (b := 10) (n := num)
    calc (10 : ℚ) ^ (guess - 1) * den
        ≤ 10 ^ (guess - 1) * 10 ^ ((Nat.toDigits 10 den).length : Int) := by
          gcongr
          exact_mod_cast hden
      _ = 10 ^ (((Nat.toDigits 10 num).length - 1 : Nat) : Int) := by
          rw [← zpow_add₀ (by norm_num)]
          congr 1
          omega
      _ ≤ num := by exact_mod_cast hlow

lemma value_normalize (fuel : Nat) (d : Digits) : (d.normalize fuel).value = d.value := by
  induction fuel generalizing d with
  | zero => rfl
  | succ fuel ih =>
    rw [Digits.normalize]
    split
    · rename_i h
      have hdigits : d.digits = d.digits / 10 * 10 := by omega
      rw [ih, Digits.value, Digits.value, zpow_add_one₀ (by norm_num)]
      nth_rewrite 2 [hdigits]
      push_cast
      ring
    · rfl

lemma ratio_eq (x : Double) :
    0 < x.ratio.2 ∧ (x.ratio.1 : ℚ) = numberOf x.magnitude * x.ratio.2 := by
  rw [numberOf, ← significand_eq, ← exponent_eq, ratio]
  split
  · obtain ⟨k, hk⟩ := Int.exists_eq_neg_ofNat (show x.exponent ≤ 0 by omega)
    refine ⟨Nat.pow_pos two_pos, ?_⟩
    simp [hk]
  · obtain ⟨k, hk⟩ := Int.eq_ofNat_of_zero_le (show 0 ≤ x.exponent by omega)
    simp [hk]

/-- The shortest digits lie where everything is rounded to the double. -/
lemma holds_shortest (h : 0 < x.magnitude) : x.interval.Holds x.shortest.value := by
  have hpos := significandOf_pos h
  have hm : (significandOf x.magnitude : ℚ) < 2 ^ 53 := by
    exact_mod_cast significandOf_lt x.magnitude
  obtain ⟨hden, hratio⟩ := ratio_eq x
  have hden' : (0 : ℚ) < x.ratio.2 := by exact_mod_cast hden
  have hexponent : (0 : ℚ) < 2 ^ x.exponent := by positivity
  have hnumber : numberOf x.magnitude < 2 ^ 53 * 2 ^ x.exponent :=
    mul_lt_mul_of_pos_right hm hexponent
  have hnum : 0 < x.ratio.1 := by
    have hnumber' : 0 < numberOf x.magnitude := mul_pos (by exact_mod_cast hpos) hexponent
    exact_mod_cast hratio ▸ mul_pos hnumber' hden'
  have hleading : (10 : ℚ) ^ leadingExponent x.ratio.1 x.ratio.2 ≤ numberOf x.magnitude :=
    le_of_mul_le_mul_right (hratio ▸ zpow_leadingExponent_le hnum) hden'
  rw [shortest, value_normalize]
  refine Interval.holds_search (n := 18) ⟨?_, ?_⟩ ?_ 17 1 rfl
  · rw [interval, significand_eq]
    dsimp only
    split <;> omega
  · rw [interval]
    dsimp only
    omega
  · have hshift : leadingExponent x.ratio.1 x.ratio.2 + 1 - (18 : Nat) =
        leadingExponent x.ratio.1 x.ratio.2 - 17 := by omega
    rw [hshift, interval]
    dsimp only
    rw [zpow_sub_two, zpow_sub₀ (by norm_num)]
    norm_num
    linarith

lemma shortest_value_pos (h : 0 < x.magnitude) : 0 < x.shortest.value := by
  obtain ⟨n, hn⟩ : ∃ n, x.magnitude = n + 1 := ⟨x.magnitude - 1, by omega⟩
  have hnumber : 0 ≤ numberOf n := by
    rw [numberOf]
    positivity
  have hhalf : 0 < halfway n := by
    have hstep := numberOf_strictMono n.lt_succ_self
    rw [halfway]
    linarith
  exact (hhalf.trans_le (halfway_le_lower hn)).trans_le (holds_shortest h).1

/-! ### Texts -/

/-- Positional text is read as the number that it was written for. -/
lemma exists_unsigned?_positional (d : Digits) (negative : Bool) :
    ∃ f : DecimalFraction, DecimalFraction.unsigned? negative d.positional.toList = some f ∧
      (f.digits : ℚ) * 10 ^ f.exponent = d.value := by
  rw [Digits.positional]
  dsimp only
  split
  · rename_i h
    obtain ⟨k, hk⟩ := Int.eq_ofNat_of_zero_le h
    have hvalue := Decimal.value_padded d.digits 0 k
    rw [List.replicate_zero, List.nil_append] at hvalue
    rw [String.toList_ofList, hk, Int.natAbs_natCast]
    refine ⟨_, DecimalFraction.unsigned?_whole (by simp [Nat.toDigits_ne_nil])
      fun c hc => Decimal.isDigit_of_char (Decimal.isDigit_padded d.digits 0 k c hc), ?_⟩
    dsimp only
    rw [hvalue, Digits.value, hk]
    push_cast
    simp
  · rename_i h
    obtain ⟨k, hk⟩ := Int.exists_eq_neg_ofNat (show d.exponent ≤ 0 by omega)
    rw [String.toList_ofList, hk, Int.natAbs_neg, Int.natAbs_natCast]
    generalize hbefore : k + 1 - (Nat.toDigits 10 d.digits).length = before
    generalize hpadded : List.replicate before '0' ++ Nat.toDigits 10 d.digits = padded
    have hdigit : ∀ c ∈ padded, Decimal.isDigit c = true := fun c hc =>
      Decimal.isDigit_of_char
        (Decimal.isDigit_padded d.digits before 0 c (by simpa [← hpadded] using hc))
    have hvalue : Decimal.value padded = d.digits := by
      simpa [← hpadded] using Decimal.value_padded d.digits before 0
    have hlength : k < padded.length := by
      rw [← hpadded, List.length_append, List.length_replicate]
      omega
    have hwhole : padded.take (padded.length - k) ≠ [] := by
      rw [Ne, List.take_eq_nil_iff, not_or]
      exact ⟨by omega, fun hnil => by simp [hnil] at hlength⟩
    refine ⟨_, DecimalFraction.unsigned?_point hwhole
      (fun c hc => hdigit c (List.mem_of_mem_take hc))
      (fun c hc => hdigit c (List.mem_of_mem_drop hc)), ?_⟩
    dsimp only
    rw [List.take_append_drop, hvalue, List.length_drop, Digits.value, hk]
    congr 3
    omega

/-- What stands behind the sign of a number. -/
def body (x : Double) : String :=
  if x.isInfinite then "inf" else if x.isZero then "0" else x.shortest.positional

lemma text_eq (h : x.isNaN = false) :
    x.text = if x.isNegative then "-" ++ x.body else x.body := by
  rw [text, if_neg (by simp [h])]
  rfl

lemma exists_unsigned?_body (h : x.isInfinite = false) :
    ∃ f : DecimalFraction, DecimalFraction.unsigned? false x.body.toList = some f ∧
      (f.digits : ℚ) * 10 ^ f.exponent = if x.isZero then 0 else x.shortest.value := by
  rw [body, h, if_neg Bool.false_ne_true]
  split
  · exact ⟨⟨false, 0, 0⟩, by decide, by simp⟩
  · exact exists_unsigned?_positional _ _

lemma pos_of_not_isZero (h : x.isZero = false) : 0 < x.magnitude :=
  Nat.pos_of_ne_zero (of_decide_eq_false h)

lemma magnitude_eq_of_body (h : x.body = y.body) : x.magnitude = y.magnitude := by
  have hinf {z w : Double} (hz : z.isInfinite = true) (hw : w.isInfinite = false) :
      z.body ≠ w.body := by
    intro hbody
    obtain ⟨f, hf, -⟩ := exists_unsigned?_body hw
    rw [← hbody, body, hz, if_pos rfl] at hf
    cases hf
  have hzero {z w : Double} (hz : z.isZero = true) (hw : w.isZero = false) :
      (if z.isZero then 0 else z.shortest.value) ≠ if w.isZero then 0 else w.shortest.value := by
    rw [hz, hw, if_pos rfl, if_neg Bool.false_ne_true]
    exact (shortest_value_pos (pos_of_not_isZero hw)).ne
  cases hx : x.isInfinite <;> cases hy : y.isInfinite
  · obtain ⟨f, hf, hxv⟩ := exists_unsigned?_body hx
    obtain ⟨g, hg, hyv⟩ := exists_unsigned?_body hy
    have hfg : f = g := Option.some.inj (hf.symm.trans (h ▸ hg))
    have hvalue := hxv.symm.trans (hfg ▸ hyv)
    cases hzx : x.isZero <;> cases hzy : y.isZero
    · rw [hzx, hzy, if_neg Bool.false_ne_true, if_neg Bool.false_ne_true] at hvalue
      exact magnitude_eq_of_holds (holds_shortest (pos_of_not_isZero hzx))
        (hvalue ▸ holds_shortest (pos_of_not_isZero hzy))
    · exact absurd hvalue.symm (hzero hzy hzx)
    · exact absurd hvalue (hzero hzx hzy)
    · exact (of_decide_eq_true hzx).trans (of_decide_eq_true hzy).symm
  · exact absurd h.symm (hinf hy hx)
  · exact absurd h (hinf hx hy)
  · exact (of_decide_eq_true hx).trans (of_decide_eq_true hy).symm

lemma eq_of_magnitude (hs : x.isNegative = y.isNegative) (hm : x.magnitude = y.magnitude) :
    x = y := by
  obtain ⟨a⟩ := x
  obtain ⟨b⟩ := y
  have ha := a.toNat_lt
  have hb := b.toNat_lt
  have hbits : a.toNat = b.toNat := by
    have hsign : signBit ≤ a.toNat ↔ signBit ≤ b.toNat := decide_eq_decide.1 hs
    have hrest : a.toNat % signBit = b.toNat % signBit := hm
    rw [show signBit = 2 ^ 63 from rfl] at hsign hrest
    omega
  rw [UInt64.toNat_inj.1 hbits]

lemma minus_not_mem_body : '-' ∉ x.body.toList := by
  intro h
  rw [body] at h
  split at h
  · simp at h
  · split at h
    · simp at h
    · rcases mem_positional h with hc | hc
      · cases hc
      · cases hc

/-- Different numbers have different texts. -/
theorem text_inj (hx : x.isNaN = false) (hy : y.isNaN = false) (h : x.text = y.text) : x = y := by
  have hminus (z w : Double) : z.body ≠ "-" ++ w.body := by
    intro hbody
    exact minus_not_mem_body (x := z) (by simp [hbody])
  rw [text_eq hx, text_eq hy] at h
  cases hxs : x.isNegative <;> cases hys : y.isNegative <;>
    simp only [hxs, hys, Bool.false_eq_true, if_false, if_true] at h
  · exact eq_of_magnitude (hxs.trans hys.symm) (magnitude_eq_of_body h)
  · exact absurd h (hminus x y)
  · exact absurd h.symm (hminus y x)
  · have hbody : x.body = y.body := String.toList_inj.1 (by simpa using congrArg String.toList h)
    exact eq_of_magnitude (hxs.trans hys.symm) (magnitude_eq_of_body hbody)

/-- Only the text of an infinity has letters. -/
theorem letters_text (h : x.isNaN = false) : x.text.toList.filter Char.isAlpha =
    if x.isInfinite then ['i', 'n', 'f'] else [] := by
  have hpositional (d : Digits) : d.positional.toList.filter Char.isAlpha = [] := by
    refine List.filter_eq_nil_iff.2 fun c hc => ?_
    rcases mem_positional hc with hd | rfl
    · simp [Decimal.isAlpha_of_isDigit hd]
    · decide
  have hbody : x.body.toList.filter Char.isAlpha =
      if x.isInfinite then ['i', 'n', 'f'] else [] := by
    rw [body]
    split
    · rfl
    · split
      · rfl
      · exact hpositional _
  rw [text_eq h]
  split
  · rw [String.toList_append, List.filter_append, hbody]
    rfl
  · exact hbody

end Double

end GraphClient
