import WireTypes.Text.Basic

/-! Tables with text keys that remember the order in which keys first came in. -/

namespace WireTypes

/-- Pairs of a key and a value in the order in which the keys first came in. -/
abbrev Table (α : Type) := List (Text × α)

namespace Table

variable {α : Type}

/-- The value at a key. -/
def get? : Table α → Text → Option α
  | [], _ => none
  | (k, v) :: rest, key => if k = key then some v else get? rest key

/-- The value at a key, or `fallback` without one. -/
def getD (t : Table α) (key : Text) (fallback : α) : α := (t.get? key).getD fallback

/-- Whether the key has a value. -/
def contains (t : Table α) (key : Text) : Bool := (t.get? key).isSome

/-- Sets the value at a key: in place if the key is there, else at the end. -/
def insert : Table α → Text → α → Table α
  | [], key, value => [(key, value)]
  | (k, v) :: rest, key, value =>
    if k = key then (k, value) :: rest else (k, v) :: insert rest key value

/-- Inserts every pair of the second table, in its order. -/
def merge (t other : Table α) : Table α := other.foldl (fun acc (k, v) => acc.insert k v) t

/-- The table of a list of pairs, in which a later value of a key wins. -/
def ofPairs (pairs : List (Text × α)) : Table α := merge [] pairs

/-- The keys in their order. -/
def keys (t : Table α) : List Text := t.map (·.1)

/-- The pairs in the order of their keys' code points. -/
def sorted (t : Table α) : Table α := t.mergeSort fun a b => Text.precedes a.1 b.1

/-- A value that is found stands in the table. -/
theorem mem_of_get? {t : Table α} {key : Text} {value : α}
    (h : t.get? key = some value) : (key, value) ∈ t := by
  induction t with
  | nil => cases h
  | cons entry rest ih =>
    obtain ⟨k, v⟩ := entry
    rw [get?] at h
    split at h
    · rename_i hkey
      subst hkey
      cases h
      simp
    · exact List.mem_cons_of_mem _ (ih h)

theorem get?_insert (t : Table α) (key : Text) (value : α) (other : Text) :
    (t.insert key value).get? other = if key = other then some value else t.get? other := by
  induction t with
  | nil => simp [insert, get?]
  | cons head rest ih =>
    obtain ⟨k, v⟩ := head
    simp only [insert]
    by_cases hk : k = key
    · subst hk
      by_cases ho : k = other <;> simp [get?, ho]
    · simp only [hk, if_false, get?]
      by_cases ho : k = other
      · have : ¬ key = other := by rintro rfl; exact hk ho
        simp [ho, this]
      · simp [ho, ih]

/-- Inserting brings in one pair and no other. -/
theorem mem_of_mem_insert {t : Table α} {key : Text} {value : α} {pair : Text × α}
    (h : pair ∈ t.insert key value) : pair = (key, value) ∨ pair ∈ t := by
  induction t with
  | nil => exact Or.inl (List.mem_singleton.mp h)
  | cons head rest ih =>
    rw [insert] at h
    split at h
    · rename_i hkey
      rcases List.mem_cons.mp h with rfl | hrest
      · exact Or.inl (by rw [hkey])
      · exact Or.inr (List.mem_cons_of_mem _ hrest)
    · rcases List.mem_cons.mp h with rfl | hrest
      · exact Or.inr List.mem_cons_self
      · exact (ih hrest).imp_right (List.mem_cons_of_mem _)

theorem contains_insert {t : Table α} {key other : Text} {value : α} :
    (t.insert key value).contains other = true ↔ key = other ∨ t.contains other = true := by
  rw [contains, get?_insert, contains]
  by_cases h : key = other <;> simp [h]

theorem contains_eq_true_iff {t : Table α} {key : Text} :
    t.contains key = true ↔ ∃ value, t.get? key = some value := Option.isSome_iff_exists

/-- The keys are those that have a value. -/
theorem mem_keys_iff {t : Table α} {key : Text} : key ∈ t.keys ↔ t.contains key = true := by
  induction t with
  | nil => simp [keys, contains, get?]
  | cons entry rest ih =>
    obtain ⟨k, v⟩ := entry
    rw [keys, List.map_cons, List.mem_cons, contains, get?]
    by_cases h : k = key
    · simp [h]
    · rw [if_neg h]
      exact ⟨fun hmem => ih.mp (hmem.resolve_left (Ne.symm h)), fun hin => Or.inr (ih.mpr hin)⟩

/-- Sorting keeps the keys. -/
theorem mem_keys_sorted {t : Table α} {key : Text} : key ∈ t.sorted.keys ↔ key ∈ t.keys := by
  simp only [keys, sorted, List.mem_map, List.mem_mergeSort]

end Table

end WireTypes
