/-!
# Entries

A finite map from strings, kept as a list of pairs in ascending order of the keys.
-/

namespace GraphClient

/-- Pairs in ascending order of their keys. -/
abbrev Entries (α : Type) := List (String × α)

namespace Entries

variable {α : Type}

/-- The entries with a new value at a key. -/
def insert (entries : Entries α) (key : String) (value : α) : Entries α :=
  match entries with
  | [] => [(key, value)]
  | (k, v) :: rest =>
    if key < k then (key, value) :: (k, v) :: rest
    else if key = k then (key, value) :: rest
    else (k, v) :: insert rest key value

/-- The entries of a list of pairs; the last pair of a key counts. -/
def ofList (pairs : List (String × α)) : Entries α :=
  pairs.foldl (fun entries pair => insert entries pair.1 pair.2) []

def get? (entries : Entries α) (key : String) : Option α := List.lookup key entries

def keys (entries : Entries α) : List String := entries.map Prod.fst

/-- Every key is less than those after it. -/
def Ascending (entries : Entries α) : Prop := entries.Pairwise fun a b => a.1 < b.1

theorem get?_cons (k key : String) (v : α) (rest : Entries α) :
    get? ((k, v) :: rest) key = if key = k then some v else get? rest key := by
  by_cases h : key = k
  · simp [get?, h]
  · simp [get?, List.lookup_cons, beq_eq_false_iff_ne.2 h, h]

theorem mem_of_get? {entries : Entries α} {key : String} {value : α}
    (h : get? entries key = some value) : (key, value) ∈ entries := by
  induction entries with
  | nil => cases h
  | cons entry rest ih =>
    obtain ⟨k, v⟩ := entry
    rw [get?_cons] at h
    split at h
    · rename_i same
      cases h
      exact same ▸ List.mem_cons_self
    · exact List.mem_cons_of_mem _ (ih h)

theorem get?_map {β : Type} (f : α → β) (entries : Entries α) (key : String) :
    get? (entries.map fun entry => (entry.1, f entry.2)) key = (get? entries key).map f := by
  induction entries with
  | nil => rfl
  | cons entry rest ih =>
    obtain ⟨k, v⟩ := entry
    rw [List.map_cons, get?_cons, get?_cons, ih]
    split <;> rfl

theorem get?_insert (entries : Entries α) (key other : String) (value : α) :
    get? (insert entries key value) other =
      if other = key then some value else get? entries other := by
  induction entries with
  | nil => simp [insert, get?_cons]
  | cons entry rest ih =>
    obtain ⟨k, v⟩ := entry
    by_cases less : key < k
    · simp [insert, less, get?_cons]
    · by_cases same : key = k
      · subst same
        by_cases h : other = key <;> simp [insert, get?_cons, h]
      · by_cases h : other = k
        · simp [insert, less, same, h, get?_cons, Ne.symm same]
        · simp [insert, less, same, h, get?_cons, ih]

theorem mem_insert {entries : Entries α} {key : String} {value : α} {pair : String × α}
    (h : pair ∈ insert entries key value) : pair = (key, value) ∨ pair ∈ entries := by
  induction entries with
  | nil => simpa [insert] using h
  | cons entry rest ih => grind [insert]

theorem mem_ofList {pairs : List (String × α)} {entry : String × α} (h : entry ∈ ofList pairs) :
    entry ∈ pairs := by
  suffices ∀ entries : Entries α,
      entry ∈ pairs.foldl (fun entries pair => insert entries pair.1 pair.2) entries →
        entry ∈ entries ∨ entry ∈ pairs from (this [] h).resolve_left nofun
  clear h
  induction pairs with
  | nil => exact fun _ h => .inl h
  | cons pair rest ih =>
    intro entries h
    rcases ih _ h with h | h
    · rcases mem_insert h with rfl | h
      · exact .inr List.mem_cons_self
      · exact .inl h
    · exact .inr (List.mem_cons_of_mem _ h)

theorem ascending_insert {entries : Entries α} (key : String) (value : α)
    (h : Ascending entries) : Ascending (insert entries key value) := by
  induction entries with
  | nil => simp [Ascending, insert]
  | cons entry rest ih =>
    obtain ⟨k, v⟩ := entry
    obtain ⟨first, others⟩ := List.pairwise_cons.1 h
    by_cases less : key < k
    · simp only [insert, if_pos less]
      refine List.pairwise_cons.2 ⟨fun pair member => ?_, h⟩
      rcases List.mem_cons.1 member with rfl | member
      · exact less
      · exact String.lt_trans less (first pair member)
    · by_cases same : key = k
      · subst same
        simp only [insert, if_neg less, if_pos]
        exact List.pairwise_cons.2 ⟨first, others⟩
      · simp only [insert, if_neg less, if_neg same]
        refine List.pairwise_cons.2 ⟨fun pair member => ?_, ih others⟩
        rcases mem_insert member with rfl | member
        · exact String.not_le.1 fun le => same (String.le_antisymm le (String.not_lt.1 less))
        · exact first pair member

theorem ascending_ofList (pairs : List (String × α)) : Ascending (ofList pairs) := by
  suffices ∀ entries : Entries α, Ascending entries →
      Ascending (pairs.foldl (fun entries pair => insert entries pair.1 pair.2) entries) from
    this [] .nil
  induction pairs with
  | nil => exact fun _ h => h
  | cons pair rest ih => exact fun entries h => ih _ (ascending_insert pair.1 pair.2 h)

end Entries

end GraphClient
