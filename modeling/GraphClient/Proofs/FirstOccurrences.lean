import GraphClient.Proofs.ValueEquality
import Mathlib.Data.List.Induction

/-!
# First occurrences

Of the items of a list those are kept that equal no kept item before them. These are the items that
equal no item before them at all; no two of them are equal, and every item that equals itself equals
exactly one of them.
-/

namespace GraphClient

namespace Value

/-- The items that no item before them equals. -/
def firsts (items : List Value) : List Value :=
  (items.zipIdx.filter fun (item, i) => !(items.take i).any (·.same item)).map Prod.fst

/-- No two of the items are equal, compared either way. -/
def AllDiffer (items : List Value) : Prop :=
  items.Pairwise fun a b => a.same b = false ∧ b.same a = false

variable {item : Value} {items : List Value}

lemma firsts_sublist (items : List Value) : (firsts items).Sublist items := by
  have h := (List.filter_sublist (p := fun (item, i) => !(items.take i).any (·.same item))
    (l := items.zipIdx)).map Prod.fst
  rwa [List.zipIdx_map_fst] at h

lemma firsts_concat (items : List Value) (item : Value) : firsts (items ++ [item]) =
    firsts items ++ if items.any (·.same item) then [] else [item] := by
  have hbefore : items.zipIdx.filter
        (fun (x, i) => !((items ++ [item]).take i).any (·.same x)) =
      items.zipIdx.filter fun (x, i) => !(items.take i).any (·.same x) := by
    refine List.filter_congr fun pair hp => ?_
    have hi : pair.2 < items.length := List.snd_lt_of_mem_zipIdx hp
    dsimp only
    rw [List.take_append_of_le_length (Nat.le_of_lt hi)]
  rw [firsts, List.zipIdx_append, List.filter_append, hbefore, List.map_append, ← firsts]
  cases h : items.any (·.same item) <;> simp [h]

lemma distinct_concat (items : List Value) (item : Value) : distinct (items ++ [item]) =
    if (distinct items).any (·.same item) then distinct items else distinct items ++ [item] := by
  rw [distinct, List.foldl_append]
  rfl

lemma distinct_sublist (items : List Value) : (distinct items).Sublist items := by
  induction items using List.reverseRecOn with
  | nil => exact .slnil
  | append_singleton items item ih =>
    rw [distinct_concat]
    split
    · exact ih.trans (List.sublist_append_left _ _)
    · exact ih.append_right [item]

/-- An item that equals itself equals one that is kept. -/
lemma exists_same_of_mem (h : item ∈ items) (hself : item.same item = true) :
    ∃ kept ∈ distinct items, kept.same item = true := by
  induction items using List.reverseRecOn with
  | nil => cases h
  | append_singleton items last ih =>
    rw [distinct_concat]
    rcases List.mem_append.1 h with h | h
    · obtain ⟨kept, hk, hsame⟩ := ih h
      split
      · exact ⟨kept, hk, hsame⟩
      · exact ⟨kept, List.mem_append_left _ hk, hsame⟩
    · cases List.mem_singleton.1 h
      split
      · rename_i hkept
        exact List.any_eq_true.1 hkept
      · exact ⟨item, List.mem_append_right _ List.mem_cons_self, hself⟩

/-- Nothing is missed by comparing with the kept items only. -/
lemma any_distinct (items : List Value) (v : Value) :
    (distinct items).any (·.same v) = items.any (·.same v) := by
  rw [Bool.eq_iff_iff, List.any_eq_true, List.any_eq_true]
  constructor
  · rintro ⟨item, hi, hsame⟩
    exact ⟨item, (distinct_sublist items).subset hi, hsame⟩
  · rintro ⟨item, hi, hsame⟩
    have hself : item.same item = true := same_trans hsame (same_symm hsame)
    obtain ⟨kept, hk, hkept⟩ := exists_same_of_mem hi hself
    exact ⟨kept, hk, same_trans hkept hsame⟩

theorem distinct_eq_firsts (items : List Value) : distinct items = firsts items := by
  induction items using List.reverseRecOn with
  | nil => rfl
  | append_singleton items item ih =>
    rw [distinct_concat, firsts_concat, any_distinct, ih]
    split <;> simp

theorem allDiffer_distinct (items : List Value) : AllDiffer (distinct items) := by
  induction items using List.reverseRecOn with
  | nil => exact .nil
  | append_singleton items item ih =>
    rw [distinct_concat]
    split
    · exact ih
    · rename_i hnew
      refine List.pairwise_append.2 ⟨ih, List.pairwise_singleton _ _, fun kept hk other ho => ?_⟩
      cases List.mem_singleton.1 ho
      have hdiffers : kept.same item = false := by
        simpa using fun hsame => hnew (List.any_eq_true.2 ⟨kept, hk, hsame⟩)
      exact ⟨hdiffers, same_comm kept item ▸ hdiffers⟩

/-- What equals an item of a list without equal items equals no other. -/
lemma AllDiffer.countP_same {v : Value} (h : AllDiffer items) (hi : item ∈ items)
    (hsame : v.same item = true) : items.countP (v.same ·) = 1 := by
  obtain ⟨before, after, rfl⟩ := List.append_of_mem hi
  have hcongr (other : Value) : v.same other = item.same other := (same_congr v item hsame other).1
  obtain ⟨-, htail, hbefore⟩ := List.pairwise_append.1 h
  have hafter := (List.pairwise_cons.1 htail).1
  have hzero : before.countP (v.same ·) = 0 := List.countP_eq_zero.2 fun other ho => by
    simp [hcongr, (hbefore other ho item List.mem_cons_self).2]
  have hzero' : after.countP (v.same ·) = 0 := List.countP_eq_zero.2 fun other ho => by
    simp [hcongr, (hafter other ho).1]
  rw [List.countP_append, List.countP_cons, hzero, hzero', if_pos hsame]

/-- Every item that equals itself equals exactly one of the first occurrences. -/
lemma countP_distinct (h : item ∈ items) (hself : item.same item = true) :
    (distinct items).countP (item.same ·) = 1 := by
  obtain ⟨kept, hk, hsame⟩ := exists_same_of_mem h hself
  exact (allDiffer_distinct items).countP_same hk (same_symm hsame)

end Value

end GraphClient
