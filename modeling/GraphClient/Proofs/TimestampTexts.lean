import GraphClient.Time.Timestamp
import GraphClient.Proofs.DecimalTexts

/-!
# Timestamps and their texts

A date says which day it is, since the days before its year and its month can be counted, and the
text of a timestamp says which date and which time of the day it is. So timestamps that differ have
different texts.
-/

namespace GraphClient

namespace Timestamp

/-! ### The calendar -/

/-- The first day of a year of a period of 400 years, if years begin in March. -/
def firstOfYear (year : Nat) : Nat := 365 * year + year / 4 - year / 100

/-- The first day of a year by its century, the leap periods before it in there, and its place. -/
lemma firstOfYear_eq {c q k : Nat} (hq : q ≤ 24) (hk : k ≤ 3) :
    firstOfYear (100 * c + 4 * q + k) = 36524 * c + 1461 * q + 365 * k := by
  have hfour : (100 * c + 4 * q + k) / 4 = 25 * c + q := by omega
  have hhundred : (100 * c + 4 * q + k) / 100 = c := by omega
  rw [firstOfYear, hfour, hhundred]
  omega

/-- The year that a day of the period belongs to. -/
def yearOf (day : Nat) : Nat := (day - day / 1460 + day / 36524 - day / 146096) / 365

/-- A day by its century, the leap periods before it in there, and the days since then. -/
lemma yearOf_eq {c q s : Nat} (hc : c ≤ 3) (hs : s < 1461) (hday : 1461 * q + s < 36524) :
    yearOf (36524 * c + (1461 * q + s)) =
      100 * c + 4 * q + (s - (24 * c + q + s) / 1460) / 365 := by
  have hleap : (36524 * c + (1461 * q + s)) / 1460 = 25 * c + q + (24 * c + q + s) / 1460 := by
    omega
  have hcentury : (36524 * c + (1461 * q + s)) / 36524 = c := by omega
  have hperiod : (36524 * c + (1461 * q + s)) / 146096 = 0 := by omega
  rw [yearOf, hleap, hcentury, hperiod]
  generalize hexcess : (24 * c + q + s) / 1460 = excess
  have hlate : excess ≤ s := by omega
  have hdays : 36524 * c + (1461 * q + s) - (25 * c + q + excess) + c - 0 =
      365 * (100 * c + 4 * q) + (s - excess) := by omega
  rw [hdays, Nat.mul_add_div (by decide)]

/-- The days of a year come after its first, and there are 366 of them at most. -/
lemma yearOf_bounds {day : Nat} (h : day < 146097) : yearOf day < 400 ∧
    firstOfYear (yearOf day) ≤ day ∧ day ≤ firstOfYear (yearOf day) + 365 := by
  rcases Nat.lt_or_ge day 146096 with hday | hday
  · obtain ⟨c, r, hc, hr, rfl⟩ : ∃ c r, c ≤ 3 ∧ r < 36524 ∧ day = 36524 * c + r :=
      ⟨day / 36524, day % 36524, by omega, by omega, by omega⟩
    obtain ⟨q, s, hs, rfl⟩ : ∃ q s, s < 1461 ∧ r = 1461 * q + s :=
      ⟨r / 1461, r % 1461, by omega, by omega⟩
    -- the formula takes a day too much on the last day of a leap period, where it has to, and on
    -- some days before it, where it does no harm
    have hexcess : (24 * c + q + s) / 1460 ≤ 1 := by omega
    have hlate : 1460 ≤ s → 1 ≤ (24 * c + q + s) / 1460 := by omega
    rw [yearOf_eq hc hs hr]
    generalize (24 * c + q + s) / 1460 = excess at hexcess hlate
    obtain ⟨k, hk⟩ : ∃ k, (s - excess) / 365 = k := ⟨_, rfl⟩
    have hthree : k ≤ 3 ∧ 365 * k ≤ s ∧ s ≤ 365 * k + 365 := by omega
    rw [hk, firstOfYear_eq (by omega) hthree.1]
    omega
  · obtain rfl : day = 146096 := by omega
    decide

def monthOf (fromMarch : Nat) : Nat := if fromMarch < 10 then fromMarch + 3 else fromMarch - 9

/-- A date says how many days there are in the periods, years and months before it. -/
lemma exists_date (days : Int) : ∃ (era : Int) (year fromMarch day : Nat), year < 400 ∧
    fromMarch < 12 ∧ day < 32 ∧
    days + 719469 = era * 146097 + firstOfYear year + ((153 * fromMarch + 2) / 5 : Nat) + day ∧
    dateOfDays days = (if monthOf fromMarch ≤ 2 then year + era * 400 + 1 else year + era * 400,
      monthOf fromMarch, day) := by
  have hdivide := Int.mul_fdiv_add_fmod (days + 719468) 146097
  have hnonneg : 0 ≤ Int.fmod (days + 719468) 146097 := Int.fmod_nonneg_of_pos _ (by omega)
  have hless : Int.fmod (days + 719468) 146097 < 146097 := Int.fmod_lt_of_pos _ (by omega)
  generalize hera : Int.fdiv (days + 719468) 146097 = era at hdivide
  generalize hday : Int.fmod (days + 719468) 146097 = day at hdivide hnonneg hless
  obtain ⟨hyear, hfirst, hlast⟩ := yearOf_bounds (show day.toNat < 146097 by omega)
  obtain ⟨rest, hrest⟩ : ∃ rest, day.toNat - firstOfYear (yearOf day.toNat) = rest := ⟨_, rfl⟩
  obtain ⟨month, hmonth⟩ : ∃ month, (5 * rest + 2) / 153 = month := ⟨_, rfl⟩
  refine ⟨era, yearOf day.toNat, month, rest - (153 * month + 2) / 5 + 1, hyear, by omega,
    by omega, by omega, ?_⟩
  rw [dateOfDays, hera, hday, ← hmonth, ← hrest]
  rfl

theorem dateOfDays_inj {a b : Int} (h : dateOfDays a = dateOfDays b) : a = b := by
  obtain ⟨era, year, month, day, hyear, hmonth, -, hdays, hdate⟩ := exists_date a
  obtain ⟨era', year', month', day', hyear', hmonth', -, hdays', hdate'⟩ := exists_date b
  rw [hdate, hdate', Prod.mk.injEq, Prod.mk.injEq] at h
  obtain ⟨hyears, hmonths, rfl⟩ := h
  have hsame : month = month' := by
    simp only [monthOf] at hmonths
    split_ifs at hmonths <;> omega
  subst hsame
  have hperiods : year + era * 400 = year' + era' * 400 := by
    split at hyears <;> omega
  obtain ⟨rfl, rfl⟩ : era = era' ∧ year = year' := by omega
  omega

/-! ### Texts -/

lemma isDigit_padded (width n : Nat) : ∀ c ∈ (padded width n).toList, c.isDigit = true := by
  intro c hc
  rw [padded, String.toList_ofList] at hc
  exact Decimal.isDigit_padded n _ 0 c (by simpa using hc)

lemma value_padded (width n : Nat) : Decimal.value (padded width n).toList = n := by
  rw [padded, String.toList_ofList]
  simpa using Decimal.value_padded n (width - (Nat.toDigits 10 n).length) 0

lemma padded_inj {width m n : Nat} (h : (padded width m).toList = (padded width n).toList) :
    m = n := by
  rw [← value_padded width m, h, value_padded]

lemma length_padded {width n : Nat} (hw : 0 < width) (h : n < 10 ^ width) :
    (padded width n).toList.length = width := by
  have hlen := (Nat.length_toDigits_le_iff (by decide) hw).2 h
  rw [padded, String.toList_ofList, List.length_append, List.length_replicate]
  omega

lemma ne_sign_padded {c : Char} (hc : c.isDigit = false) (width m n : Nat) :
    (padded width m).toList ≠ c :: (padded width n).toList := fun h =>
  absurd (isDigit_padded width m c (h ▸ List.mem_cons_self)) (by simp [hc])

lemma toList_yearText (year : Int) : (yearText year).toList =
    if 0 ≤ year ∧ year ≤ 9999 then (padded 4 year.natAbs).toList
    else (if year < 0 then '-' else '+') :: (padded 4 year.natAbs).toList := by
  rw [yearText]
  split
  · rfl
  · split <;> simp

lemma yearText_inj {y z : Int} (h : (yearText y).toList = (yearText z).toList) : y = z := by
  have hsign (year : Int) : (if year < 0 then '-' else '+').isDigit = false := by
    split <;> decide
  rw [toList_yearText, toList_yearText] at h
  by_cases hy : 0 ≤ y ∧ y ≤ 9999 <;> by_cases hz : 0 ≤ z ∧ z ≤ 9999
  · rw [if_pos hy, if_pos hz] at h
    have habs := padded_inj h
    omega
  · rw [if_pos hy, if_neg hz] at h
    exact absurd h (ne_sign_padded (hsign z) _ _ _)
  · rw [if_neg hy, if_pos hz] at h
    exact absurd h.symm (ne_sign_padded (hsign y) _ _ _)
  · rw [if_neg hy, if_neg hz] at h
    obtain ⟨hsame, habs⟩ := List.cons_eq_cons.1 h
    have habs := padded_inj habs
    split at hsame <;> split at hsame
    · omega
    · cases hsame
    · cases hsame
    · omega

/-- The digits of a fraction, with the places that they are missing, are its microseconds. -/
lemma value_fractionText {n : Nat} (h : n < 1000000) :
    Decimal.value (fractionText n).toList.tail * 10 ^ (7 - (fractionText n).toList.length) = n := by
  have hpoint : ".".toList = ['.'] := rfl
  rw [fractionText]
  split
  · rename_i hzero
    rw [hzero]
    rfl
  · split
    · have hlength : (padded 3 (n / 1000)).toList.length = 3 :=
        length_padded (by decide) (by omega)
      rw [String.toList_append, hpoint, List.singleton_append, List.tail_cons, value_padded,
        List.length_cons, hlength]
      omega
    · have hlength : (padded 6 n).toList.length = 6 := length_padded (by decide) h
      rw [String.toList_append, hpoint, List.singleton_append, List.tail_cons, value_padded,
        List.length_cons, hlength]
      omega

lemma fractionText_inj {m n : Nat} (hm : m < 1000000) (hn : n < 1000000)
    (h : (fractionText m).toList = (fractionText n).toList) : m = n := by
  rw [← value_fractionText hm, h, value_fractionText hn]

def dateChars (date : Int × Nat × Nat) : List Char :=
  (yearText date.1).toList ++
    ('-' :: (padded 2 date.2.1).toList ++ '-' :: (padded 2 date.2.2).toList)

def timeChars (micros : Nat) : List Char :=
  (padded 2 (micros / 1000000 / 3600)).toList ++
    ':' :: ((padded 2 (micros / 1000000 / 60 % 60)).toList ++
      ':' :: ((padded 2 (micros / 1000000 % 60)).toList ++
        (fractionText (micros % 1000000)).toList))

lemma toList_localText (t : Timestamp) : t.localText.toList =
    dateChars (dateOfDays (Int.fdiv t.micros 86400000000)) ++
      'T' :: timeChars (Int.fmod t.micros 86400000000).toNat := by
  simp [localText, dateChars, timeChars]

lemma dateChars_inj {a b : Int} (h : dateChars (dateOfDays a) = dateChars (dateOfDays b)) :
    a = b := by
  have htwo (days : Int) : (dateOfDays days).2.1 < 100 ∧ (dateOfDays days).2.2 < 100 := by
    obtain ⟨era, year, month, day, -, hmonth, hday, -, hdate⟩ := exists_date days
    have htwelve : monthOf month ≤ 12 := by
      rw [monthOf]
      split <;> omega
    rw [hdate]
    exact ⟨show monthOf month < 100 by omega, show day < 100 by omega⟩
  have hlength {n : Nat} (hn : n < 100) : (padded 2 n).toList.length = 2 :=
    length_padded (by decide) hn
  obtain ⟨hyear, hrest⟩ := List.append_inj' h (by simp [hlength, htwo])
  obtain ⟨hmonth, hday⟩ := List.append_inj hrest (by simp [hlength, htwo])
  refine dateOfDays_inj (Prod.ext (yearText_inj hyear) (Prod.ext ?_ ?_))
  · exact padded_inj (List.cons_eq_cons.1 hmonth).2
  · exact padded_inj (List.cons_eq_cons.1 hday).2

lemma timeChars_inj {m n : Nat} (hm : m < 86400000000) (hn : n < 86400000000)
    (h : timeChars m = timeChars n) : m = n := by
  have hlength {k : Nat} (hk : k < 100) : (padded 2 k).toList.length = 2 :=
    length_padded (by decide) hk
  obtain ⟨hhours, h⟩ := List.append_inj h (by rw [hlength (by omega), hlength (by omega)])
  obtain ⟨hminutes, h⟩ := List.append_inj (List.cons_eq_cons.1 h).2
    (by rw [hlength (by omega), hlength (by omega)])
  obtain ⟨hseconds, h⟩ := List.append_inj (List.cons_eq_cons.1 h).2
    (by rw [hlength (by omega), hlength (by omega)])
  have hhours := padded_inj hhours
  have hminutes := padded_inj hminutes
  have hseconds := padded_inj hseconds
  have hmicros := fractionText_inj (by omega) (by omega) h
  omega

/-! ### Letters in texts -/

lemma letters_padded (width n : Nat) : (padded width n).toList.filter Char.isAlpha = [] :=
  List.filter_eq_nil_iff.2 fun c hc => by
    simp [Decimal.isAlpha_of_isDigit (isDigit_padded width n c hc)]

lemma letters_dateChars (date : Int × Nat × Nat) : (dateChars date).filter Char.isAlpha = [] := by
  have hyear : (yearText date.1).toList.filter Char.isAlpha = [] := by
    rw [toList_yearText]
    split
    · exact letters_padded _ _
    · rw [List.filter_cons_of_neg (by split <;> decide)]
      exact letters_padded _ _
  simp [dateChars, hyear, letters_padded]

lemma letters_timeChars (micros : Nat) : (timeChars micros).filter Char.isAlpha = [] := by
  have hfraction : (fractionText (micros % 1000000)).toList.filter Char.isAlpha = [] := by
    rw [fractionText]
    split
    · rfl
    · split <;> simp [letters_padded]
  simp [timeChars, hfraction, letters_padded]

/-- The only letter is the mark between date and time. -/
theorem letters_text (t : Timestamp) : t.text.toList.filter Char.isAlpha = ['T'] := by
  have hoffset : "+00:00".toList.filter Char.isAlpha = [] := rfl
  rw [text, String.toList_append, List.filter_append, toList_localText, List.filter_append,
    letters_dateChars, List.filter_cons_of_pos (by decide), letters_timeChars, hoffset]
  rfl

lemma marked_inj {a b : Int × Nat × Nat} {p q : List Char}
    (h : dateChars a ++ 'T' :: p = dateChars b ++ 'T' :: q) :
    dateChars a = dateChars b ∧ p = q := by
  have hbefore (date : Int × Nat × Nat) (rest : List Char) :
      (dateChars date ++ 'T' :: rest).takeWhile (· != 'T') = dateChars date := by
    have hother : ∀ c ∈ dateChars date, (c != 'T') = true := fun c hc =>
      bne_iff_ne.2 fun heq => List.filter_eq_nil_iff.1 (letters_dateChars date) c hc (heq ▸ rfl)
    rw [List.takeWhile_append_of_pos hother, List.takeWhile_cons_of_neg (by decide),
      List.append_nil]
  have hdate : dateChars a = dateChars b := by rw [← hbefore a p, h, hbefore]
  rw [hdate] at h
  exact ⟨hdate, (List.cons_eq_cons.1 (List.append_cancel_left h)).2⟩

lemma micros_eq (t : Timestamp) : (Int.fmod t.micros 86400000000).toNat < 86400000000 ∧
    t.micros = 86400000000 * Int.fdiv t.micros 86400000000 +
      ((Int.fmod t.micros 86400000000).toNat : Int) := by
  have hdivide := Int.mul_fdiv_add_fmod t.micros 86400000000
  have hnonneg : 0 ≤ Int.fmod t.micros 86400000000 := Int.fmod_nonneg_of_pos _ (by decide)
  have hless : Int.fmod t.micros 86400000000 < 86400000000 := Int.fmod_lt_of_pos _ (by decide)
  generalize Int.fmod t.micros 86400000000 = rest at *
  omega

/-- Different timestamps have different texts. -/
theorem text_inj {s t : Timestamp} (h : s.text = t.text) : s = t := by
  have hlocal : s.localText.toList = t.localText.toList := by
    have hlist := congrArg String.toList h
    rw [text, text, String.toList_append, String.toList_append] at hlist
    exact List.append_cancel_right hlist
  rw [toList_localText, toList_localText] at hlocal
  obtain ⟨hdate, htime⟩ := marked_inj hlocal
  obtain ⟨hs, hmicros⟩ := micros_eq s
  obtain ⟨ht, hmicros'⟩ := micros_eq t
  have hdays := dateChars_inj hdate
  have hrest := timeChars_inj hs ht htime
  rw [hdays, hrest, ← hmicros'] at hmicros
  obtain ⟨a⟩ := s
  exact congrArg Timestamp.mk hmicros

end Timestamp

end GraphClient
